import Blueprint.Json.Printer
import Blueprint.Resolution
import Blueprint.Snapshot.Auth
import Blueprint.Snapshot.Http
import Blueprint.Snapshot.Schema

namespace Blueprint

/-!
# Snapshots of plans

A plan as one JSON value, and as text over several lines.
-/

namespace Snapshot

open Json

/-- The database part of a plan. -/
def databasePlan
    (value : DatabasePlan) :
    Value :=
  .object
    [("namespace", text value.space),
     ("entities", entries entity value.entities),
     ("migrations", entries migration value.migrations)]

/-- The HTTP part of a plan. -/
def httpPlan
    (value : HttpPlan) :
    Value :=
  .object
    [("namespace", text value.space),
     ("middleware", entries middleware value.middleware),
     ("controllers", entries controller value.controllers)]

/-- The authorization part of a plan. -/
def authPlan
    (value : AuthPlan) :
    Value :=
  .object
    [("gates", entries gate value.gates),
     ("policies", entries policy value.policies),
     ("forms", entries form value.forms)]

/-- A plan. -/
def plan
    (value : Plan) :
    Value :=
  .object
    [("database", databasePlan value.database),
     ("http", httpPlan value.http),
     ("auth", authPlan value.auth)]

end Snapshot

/-- The text of a plan over several lines. -/
def Plan.page
    (plan : Plan) :
    String :=
  (Snapshot.plan plan).page

end Blueprint
