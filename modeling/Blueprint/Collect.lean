namespace Blueprint

/-!
# Steps that may fail

Doing the same thing to every element of a list, up to the first failure.
-/

variable {ε α β : Type}

/-- The results for all elements in order, or the first failure. -/
def collect
    (step : α → Except ε β) :
    List α →
    Except ε (List β)
  | [] => .ok []
  | item :: rest =>
      match step item with
      | .error cause => .error cause
      | .ok first =>
          match collect step rest with
          | .error cause => .error cause
          | .ok others => .ok (first :: others)

/-- The first failure among the elements, if there is one. -/
def checkAll
    (check : α → Except ε Unit) :
    List α →
    Except ε Unit
  | [] => .ok ()
  | item :: rest =>
      match check item with
      | .error cause => .error cause
      | .ok () => checkAll check rest

/-- The state after a step for every element in order, or the first failure. -/
def accumulate
    (step : β → α → Except ε β)
    (state : β) :
    List α →
    Except ε β
  | [] => .ok state
  | item :: rest =>
      match step state item with
      | .error cause => .error cause
      | .ok next => accumulate step next rest

end Blueprint
