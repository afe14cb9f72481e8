set_option autoImplicit false

namespace OriginRegistry

abbrev Action (σ ε α : Type) := ExceptT ε (StateM σ) α

namespace Action

variable {σ τ ε ζ α : Type}

def zoom (get : τ → σ) (put : σ → τ → τ) (a : Action σ ε α) : Action τ ε α :=
  ExceptT.mk fun t =>
    let (result, s) := a.run (get t)
    (result, put s t)

def answer (result : Except ε α) : Action σ ε α := ExceptT.mk fun s => (result, s)

def note (f : σ → σ) : Action σ ε Unit := ExceptT.mk fun s => (.ok (), f s)

def mapError (f : ε → ζ) (a : Action σ ε α) : Action σ ζ α :=
  ExceptT.mk fun s =>
    let (result, s) := a.run s
    (result.mapError f, s)

end Action

end OriginRegistry
