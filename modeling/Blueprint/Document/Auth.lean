import Blueprint.Document.Http

namespace Blueprint.Document

/-!
# The authorization section

Gates with their handlers, policies of models, and form requests.
-/

/-- Whether a model has a policy, or for which actions. -/
inductive Policy where
  | toggle (enabled : Bool)
  | actions (words : Words)
  deriving Repr, DecidableEq

/-- How policies are written. -/
def policyCodec : Codec Policy :=
  Codec.choice .policy
    [Codec.reader Codec.truth Policy.toggle, Codec.reader wordsCodec Policy.actions]
    fun
      | .toggle enabled => Codec.truth.write enabled
      | .actions words => wordsCodec.write words

/-- A declared form request. -/
structure Form where
  authorize : Option Authorize
  rules : Table Rules
  deriving Repr, DecidableEq

/-- A form with every field left out. -/
def Form.blank : Form :=
  ⟨none, ∅⟩

/-- How forms are written. -/
def formCodec : Codec Form :=
  Codec.record .blank
    [Codec.field "authorize" (.optional authorizeCodec) (·.authorize)
       fun value form => { form with authorize := value },
     Codec.field "rules" (.defaulted ∅ (.table rulesCodec)) (·.rules)
       fun value form => { form with rules := value }]

/-- The authorization section. -/
structure Auth where
  gates : Table (Option String)
  policies : Table (Option Policy)
  forms : Table (Option Form)
  deriving Repr, DecidableEq

/-- An authorization section with every field left out. -/
def Auth.blank : Auth :=
  ⟨∅, ∅, ∅⟩

/-- How the authorization section is written. -/
def authCodec : Codec Auth :=
  Codec.record .blank
    [Codec.field "gates" (.defaulted ∅ (.table (.optional .text))) (·.gates)
       fun value auth => { auth with gates := value },
     Codec.field "policies" (.defaulted ∅ (.table (.optional policyCodec))) (·.policies)
       fun value auth => { auth with policies := value },
     Codec.field "forms" (.defaulted ∅ (.table (.optional formCodec))) (·.forms)
       fun value auth => { auth with forms := value }]

end Blueprint.Document
