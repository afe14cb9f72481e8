import OriginRegistry.Database.Pool

set_option autoImplicit false

namespace OriginRegistry

section Results

variable {ε ζ α β : Type}

theorem bind_eq_ok_iff {x : Except ε α} {f : α → Except ε β} {b : β} :
    (x >>= f) = .ok b ↔ ∃ a, x = .ok a ∧ f a = .ok b := by
  cases x with
  | error e =>
    constructor
    · intro h
      cases h
    · rintro ⟨_, h, _⟩
      cases h
  | ok a =>
    constructor
    · intro h
      exact ⟨a, rfl, h⟩
    · rintro ⟨_, h, hf⟩
      cases h
      exact hf

theorem pure_eq_ok_iff {a b : α} : (pure a : Except ε α) = .ok b ↔ a = b :=
  ⟨fun h => Except.ok.inj h, congrArg Except.ok⟩

@[simp] theorem ok_bind (a : α) (f : α → Except ε β) : (Except.ok a >>= f) = f a := rfl

@[simp] theorem throw_bind (e : ε) (f : α → Except ε β) : (throw e >>= f : Except ε β) = .error e := rfl

theorem ite_throw_eq_ok_iff {c : Prop} [Decidable c] {e : ε} {f : α → Except ε β} {x : Except ε β} {b : β} :
    (if c then throw e >>= f else x) = .ok b ↔ ¬ c ∧ x = .ok b := by
  by_cases h : c <;> simp [h]

theorem ite_error_eq_ok_iff {c : Prop} [Decidable c] {e : ε} {x : Except ε β} {b : β} :
    (if c then .error e else x) = .ok b ↔ ¬ c ∧ x = .ok b := by
  by_cases h : c <;> simp [h]

@[simp] theorem ok_mapError (f : ε → ζ) (a : α) : (Except.ok a).mapError f = .ok a := rfl

theorem mapError_eq_ok_iff {x : Except ε α} {f : ε → ζ} {a : α} :
    x.mapError f = .ok a ↔ x = .ok a := by
  cases x with
  | error e => exact ⟨nofun, nofun⟩
  | ok b => rw [ok_mapError, Except.ok.injEq, Except.ok.injEq]

theorem map_eq_ok_iff {x : Except ε α} {f : α → β} {b : β} :
    x.map f = .ok b ↔ ∃ a, x = .ok a ∧ f a = b := by
  cases x <;> simp [Except.map]

def errorOf? : Except ε α → Option ε
  | .ok _ => none
  | .error e => some e

end Results

namespace Action

variable {σ ε ζ α β : Type}

theorem run_bind (a : Action σ ε α) (f : α → Action σ ε β) (s : σ) :
    (a >>= f).run s = match a.run s with
      | (.ok x, u) => (f x).run u
      | (.error e, u) => (.error e, u) := by
  rw [ExceptT.run_bind]
  simp only [bind, StateT.bind]
  rcases a.run s with ⟨_ | _, _⟩ <;> rfl

@[simp] theorem run_answer (x : Except ε α) (s : σ) : (answer x).run s = (x, s) := rfl

@[simp] theorem run_mapError (f : ε → ζ) (a : Action σ ε α) (s : σ) :
    (a.mapError f).run s = ((a.run s).1.mapError f, (a.run s).2) := rfl

section Forward

variable {a : Action σ ε α} {s t : σ}

theorem run_bind_ok {f : α → Action σ ε β} {x : α} (ran : a.run s = (.ok x, t)) :
    (a >>= f).run s = (f x).run t := by
  rw [run_bind, ran]

theorem run_bind_error {f : α → Action σ ε β} {e : ε} (ran : a.run s = (.error e, t)) :
    (a >>= f).run s = (.error e, t) := by
  rw [run_bind, ran]

theorem run_mapError_ok {f : ε → ζ} {x : α} (ran : a.run s = (.ok x, t)) : (a.mapError f).run s = (.ok x, t) := by
  rw [run_mapError, ran]
  rfl

theorem run_mapError_error {f : ε → ζ} {e : ε} (ran : a.run s = (.error e, t)) :
    (a.mapError f).run s = (.error (f e), t) := by
  rw [run_mapError, ran]
  rfl

end Forward

section Part

variable {τ : Type} {get : τ → σ} {put : σ → τ → τ}

structure IsPart (get : τ → σ) (put : σ → τ → τ) : Prop where
  get_put : ∀ s t, get (put s t) = s
  put_put : ∀ s s' t, put s' (put s t) = put s' t
  put_get : ∀ t, put (get t) t = t

/-- An action that does to a part of the state what another one does, and leaves the rest alone. -/
def Zooms (get : τ → σ) (put : σ → τ → τ) (a : Action τ ε α) (b : Action σ ε α) : Prop :=
  ∀ t, a.run t = ((b.run (get t)).1, put (b.run (get t)).2 t)

theorem zooms_zoom (get : τ → σ) (put : σ → τ → τ) (b : Action σ ε α) : Zooms get put (b.zoom get put) b :=
  fun _ => rfl

theorem IsPart.answer (part : IsPart get put) (x : Except ε α) : Zooms get put (Action.answer x) (Action.answer x) := by
  intro t
  rw [run_answer, run_answer, part.put_get]

theorem Zooms.mapError {a : Action τ ε α} {b : Action σ ε α} (zooms : Zooms get put a b) (f : ε → ζ) :
    Zooms get put (a.mapError f) (b.mapError f) := by
  intro t
  rw [run_mapError, run_mapError, zooms t]

theorem Zooms.bind {a : Action τ ε α} {b : Action σ ε α} {f : α → Action τ ε β} {g : α → Action σ ε β}
    (first : Zooms get put a b) (part : IsPart get put) (rest : ∀ x, Zooms get put (f x) (g x)) :
    Zooms get put (a >>= f) (b >>= g) := by
  intro t
  rw [run_bind, run_bind, first t]
  rcases b.run (get t) with ⟨e | x, s⟩
  · rfl
  · have later := rest x (put s t)
    rw [part.get_put, part.put_put] at later
    exact later

end Part

def Within (R : σ → σ → Prop) (a : Action σ ε α) : Prop := ∀ s, R s (a.run s).2

variable {R : σ → σ → Prop}

theorem Within.bind (trans : ∀ {s t u}, R s t → R t u → R s u) {a : Action σ ε α} {f : α → Action σ ε β}
    (first : a.Within R) (rest : ∀ x, (f x).Within R) : (a >>= f).Within R := by
  intro s
  have step := first s
  rw [run_bind]
  rcases ran : a.run s with ⟨e | x, t⟩
  · rw [ran] at step
    exact step
  · rw [ran] at step
    exact trans step (rest x t)

theorem Within.answer (refl : ∀ s, R s s) (x : Except ε α) : (Action.answer x : Action σ ε α).Within R := refl

def Reads (a : Action σ ε α) : Prop := ∀ s, (a.run s).2 = s

def Atomic (a : Action σ ε α) : Prop := ∀ s e t, a.run s = (.error e, t) → t = s

theorem Reads.bind {a : Action σ ε α} {f : α → Action σ ε β} (first : a.Reads) (rest : ∀ x, (f x).Reads) :
    (a >>= f).Reads := by
  have equal : a.Within fun s t => t = s := first
  exact equal.bind (fun first second => second.trans first) rest

theorem Reads.mapError {a : Action σ ε α} (reads : a.Reads) (f : ε → ζ) : (a.mapError f).Reads := reads

theorem Reads.within (refl : ∀ s, R s s) {a : Action σ ε α} (reads : a.Reads) : a.Within R := by
  intro s
  rw [reads s]
  exact refl s

theorem Reads.atomic {a : Action σ ε α} (reads : a.Reads) : a.Atomic := by
  intro s e t ran
  have kept := reads s
  rw [ran] at kept
  exact kept

theorem Atomic.bind {a : Action σ ε α} {f : α → Action σ ε β} (first : a.Reads) (rest : ∀ x, (f x).Atomic) :
    (a >>= f).Atomic := by
  intro s e t ran
  have kept := first s
  rw [run_bind] at ran
  rcases step : a.run s with ⟨e' | x, u⟩
  · rw [step] at ran kept
    exact (congrArg Prod.snd ran).symm.trans kept
  · rw [step] at ran kept
    exact (rest x u e t ran).trans kept

theorem Atomic.mapError {a : Action σ ε α} (atomic : a.Atomic) (f : ε → ζ) : (a.mapError f).Atomic := by
  intro s e t ran
  rw [run_mapError] at ran
  rcases step : a.run s with ⟨e' | x, u⟩
  · rw [step] at ran
    exact (congrArg Prod.snd ran).symm.trans (atomic s e' u step)
  · rw [step] at ran
    cases ran

end Action

namespace Pool

variable {ε α : Type}

@[simp] theorem run_query_open (refuse : DatabaseError → ε) (read : Database → Except ε α) (db : Database) :
    (query refuse read).run ⟨db, true⟩ = (read db, ⟨db, true⟩) := rfl

theorem run_transact_ok {refuse : DatabaseError → ε} {change : Database → Except ε (α × Database)}
    {db after : Database} {x : α} (h : change db = .ok (x, after)) :
    (transact refuse change).run ⟨db, true⟩ = (.ok x, ⟨after, true⟩) := by
  simp only [transact, ExceptT.run_mk, ↓reduceIte, h]

theorem run_transact_error {refuse : DatabaseError → ε} {change : Database → Except ε (α × Database)}
    {db : Database} {e : ε} (h : change db = .error e) :
    (transact refuse change).run ⟨db, true⟩ = (.error e, ⟨db, true⟩) := by
  simp only [transact, ExceptT.run_mk, ↓reduceIte, h]

theorem query_within {R : Pool → Pool → Prop} (refl : ∀ p, R p p) (refuse : DatabaseError → ε)
    (read : Database → Except ε α) : (query refuse read).Within R := refl

theorem query_reads (refuse : DatabaseError → ε) (read : Database → Except ε α) : (query refuse read).Reads :=
  fun _ => rfl

/-- Whatever the change has come to when it fails, nothing of it is kept. -/
theorem transact_atomic (refuse : DatabaseError → ε) (change : Database → Except ε (α × Database)) :
    (transact refuse change).Atomic := by
  intro p e q ran
  simp only [transact, ExceptT.run_mk] at ran
  split at ran
  · cases result : change p.database with
    | error _ =>
      rw [result] at ran
      exact (congrArg Prod.snd ran).symm
    | ok made =>
      rw [result] at ran
      cases ran
  · exact (congrArg Prod.snd ran).symm

theorem transact_within {R : Pool → Pool → Prop} (refl : ∀ p, R p p) {refuse : DatabaseError → ε}
    {change : Database → Except ε (α × Database)}
    (changed : ∀ p x db, change p.database = .ok (x, db) → R p { p with database := db }) :
    (transact refuse change).Within R := by
  intro p
  simp only [transact, ExceptT.run_mk]
  by_cases isOpen : p.isOpen = true
  · rw [if_pos isOpen]
    cases result : change p.database with
    | error e => exact refl p
    | ok made => exact changed p made.1 made.2 result
  · rw [if_neg isOpen]
    exact refl p

end Pool

end OriginRegistry
