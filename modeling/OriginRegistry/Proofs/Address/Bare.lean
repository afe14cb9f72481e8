import OriginRegistry.Proofs.Address.Parts

set_option autoImplicit false

namespace OriginRegistry

/-- The port that an address names: not the default of its scheme. -/
def Scheme.namedPort? (scheme : Scheme) (port : Option Nat) : Option Nat :=
  if port = scheme.defaultPort? then none else port

theorem Scheme.defaultPort?_lt {scheme : Scheme} {n : Nat} (default : scheme.defaultPort? = some n) : n < 65536 := by
  cases scheme <;> cases default <;> decide

theorem Scheme.namedPort?_eq_some_iff {scheme : Scheme} {port : Option Nat} {n : Nat} :
    scheme.namedPort? port = some n ↔ port = some n ∧ scheme.defaultPort? ≠ some n := by
  rw [Scheme.namedPort?, Option.ite_none_left_eq_some, and_comm]
  refine and_congr_right fun same => ?_
  rw [same]
  exact not_congr eq_comm

theorem Scheme.namedPort?_namedPort? (scheme : Scheme) (port : Option Nat) :
    scheme.namedPort? (scheme.namedPort? port) = scheme.namedPort? port := by
  refine Option.ext fun n => ?_
  simp only [Scheme.namedPort?_eq_some_iff, and_assoc, and_self]

namespace Address

def bare (scheme : Scheme) (host : Host) (port : Option Nat) : Address :=
  ⟨scheme, [], none, some host, port, [[]], none, none⟩

/-- What makes up an authority: what is written of credentials, of the host and of the port with its colon. -/
structure IsAuthority (credentials name colon : List Char) (host : Host) : Prop where
  credentials : credentials ∈ emptyCredentials
  inside : ∀ c ∈ name ++ colon, endsAuthority true c = false
  unmarked : '@' ∉ name ++ colon
  split : splitHost false (name ++ colon) = (name, colon)
  host : Host.parse name = .ok host
  digits : ∀ c ∈ colon.drop 1, c.isDigit = true
  small : portFrom 0 (colon.drop 1) < 65536

structure IsRoot (path : List Char) : Prop where
  starts : ∀ c ∈ path.head?, isSlash true c = true
  plain : ∀ c ∈ path, c ≠ '?' ∧ c ≠ '#'
  segments : segments true path = [[]]

theorem isRoot_nil : IsRoot [] where
  starts := by
    intro c hc
    cases hc
  plain := List.forall_mem_nil _
  segments := rfl

variable {scheme : Scheme} {host : Host} {port : Option Nat} {cs name colon credentials path remaining : List Char}

theorem isSpecial_of_web (web : scheme.hasWebOrigin = true) : scheme.isSpecial = true := by
  cases scheme <;> first | rfl | cases web

theorem hostOf_eq_ok_iff (web : scheme.hasWebOrigin = true) {found : Option Host} :
    hostOf scheme cs = .ok found ↔ ∃ host, Host.parse cs = .ok host ∧ found = some host := by
  have empty : Host.parse [] = .error .empty := rfl
  rw [hostOf, if_pos (isSpecial_of_web web)]
  cases cs with
  | nil => simp [empty]
  | cons c cs => cases Host.parse (c :: cs) <;> simp [eq_comm]

theorem readHostPort_eq_ok_iff (web : scheme.hasWebOrigin = true) (inside : ∀ c ∈ cs, endsAuthority true c = false)
    {found : Option Host} :
    readHostPort scheme cs = .ok (found, port, remaining) ↔
      ∃ host, found = some host ∧ Host.parse (splitHost false cs).1 = .ok host ∧
        (∀ c ∈ (splitHost false cs).2.drop 1, c.isDigit = true) ∧ portFrom 0 ((splitHost false cs).2.drop 1) < 65536 ∧
        port = scheme.namedPort? (portOf ((splitHost false cs).2.drop 1)) ∧ remaining = [] := by
  have whole := splitHost_append false cs
  rw [readHostPort]
  generalize splitHost false cs = parts at whole ⊢
  obtain ⟨name, colon⟩ := parts
  simp only at whole ⊢
  cases read : Host.parse name with
  | error refusal =>
    have refused (x : Option Host) : hostOf scheme name ≠ .ok x := fun ok => by
      obtain ⟨host, parsed, _⟩ := (hostOf_eq_ok_iff web).1 ok
      cases read.symm.trans parsed
    cases hosted : hostOf scheme name with
    | error _ => simp
    | ok x => exact absurd hosted (refused x)
  | ok host =>
    have hosted := (hostOf_eq_ok_iff web).2 ⟨host, read, rfl⟩
    simp only [hosted]
    cases colon with
    | nil =>
      have portless : scheme.namedPort? (portOf []) = none := ite_self none
      constructor
      · rintro ⟨⟩
        exact ⟨host, rfl, rfl, by simp, by decide, portless.symm, rfl⟩
      · rintro ⟨_, rfl, ⟨⟩, _, _, rfl, rfl⟩
        exact congrArg (fun port => Except.ok (some host, port, [])) portless.symm
    | cons c digits =>
      have inner : ∀ x ∈ digits, endsAuthority true x = false := by
        intro x hx
        refine inside x ?_
        rw [← whole]
        exact List.mem_append_right _ (List.mem_cons_of_mem c hx)
      simp only [Option.isNone_some, Bool.false_eq_true, ↓reduceIte, List.drop_succ_cons, List.drop_zero]
      cases digitsRead : readPort none digits with
      | error refusal =>
        refine ⟨by simp, ?_⟩
        rintro ⟨_, _, _, decimal, small, _, _⟩
        have ok := (readPort_eq_ok_iff inner).2 ⟨decimal, small, rfl, rfl⟩
        cases digitsRead.symm.trans ok
      | ok result =>
        obtain ⟨decimal, small, written, rest⟩ := (readPort_eq_ok_iff inner).1 digitsRead
        constructor
        · rintro ⟨⟩
          exact ⟨host, rfl, rfl, decimal, small, by rw [← written]; rfl, rest⟩
        · rintro ⟨_, rfl, ⟨⟩, _, _, rfl, rfl⟩
          rw [← written, ← rest]
          rfl

theorem IsAuthority.name_ne_nil (h : IsAuthority credentials name colon host) : name ≠ [] := by
  rintro rfl
  have empty : Host.parse [] = .error .empty := rfl
  cases empty.symm.trans h.host

theorem IsAuthority.read (h : IsAuthority credentials name colon host)
    (starts : ∀ c ∈ path.head?, isSlash true c = true) :
    (credentials ++ (name ++ colon) ++ path).takeWhile (fun c => !endsAuthority true c) =
        credentials ++ (name ++ colon) ∧
      (credentials ++ (name ++ colon) ++ path).dropWhile (fun c => !endsAuthority true c) = path := by
  have bare : ∀ x ∈ emptyCredentials, ∀ c ∈ x, endsAuthority true c = false := by
    simp [emptyCredentials, endsAuthority, isSlash]
  have all : ∀ c ∈ credentials ++ (name ++ colon), (!endsAuthority true c) = true := by
    intro c hc
    rw [Bool.not_eq_true']
    rcases List.mem_append.1 hc with first | second
    · exact bare credentials h.credentials c first
    · exact h.inside c second
  have stop : ∀ c ∈ path.head?, (!endsAuthority true c) = false := by
    intro c hc
    rw [endsAuthority, starts c hc]
    rfl
  exact ⟨Text.takeWhile_append_stop all stop, Text.dropWhile_append_stop all stop⟩

theorem readAuthority_bare (web : scheme.hasWebOrigin = true) {colon : List Char}
    (h : IsAuthority credentials name colon host) (root : IsRoot path) :
    readAuthority scheme (credentials ++ (name ++ colon) ++ path) =
      .ok (bare scheme host (scheme.namedPort? (portOf (colon.drop 1)))) := by
  obtain ⟨taken, dropped⟩ := h.read root.starts
  have parts := credentials_eq_nobody_iff.2 ⟨credentials, h.credentials, rfl, h.unmarked⟩
  have written : readHostPort scheme (name ++ colon) =
      .ok (some host, scheme.namedPort? (portOf (colon.drop 1)), []) := by
    refine (readHostPort_eq_ok_iff web h.inside).2 ⟨host, rfl, ?_⟩
    rw [h.split]
    exact ⟨h.host, h.digits, h.small, rfl, rfl⟩
  have tail := splitTail_eq_plain_iff.2 ⟨rfl, root.plain⟩
  have some : (name ++ colon).isEmpty = false := by simp [h.name_ne_nil]
  simp only [readAuthority, isSpecial_of_web web, taken, dropped]
  generalize (splitLastAt (credentials ++ (name ++ colon))).getD ([], credentials ++ (name ++ colon)) = split at parts ⊢
  obtain ⟨nobody, hostPort⟩ := split
  obtain ⟨unnamed, rfl⟩ := parts
  simp only at unnamed
  simp only [unnamed, some, Bool.and_false, Bool.false_and, Bool.false_eq_true, ↓reduceIte, written, List.nil_append,
    tail, root.segments]
  rfl

theorem readAuthority_eq_ok (web : scheme.hasWebOrigin = true) {a : Address} (read : readAuthority scheme cs = .ok a)
    (unnamed : a.username = []) (unlocked : a.password = none) (plain : a.query = none ∧ a.fragment = none) :
    ∃ credentials name colon path host, cs = credentials ++ (name ++ colon) ++ path ∧
      IsAuthority credentials name colon host ∧ (∀ c ∈ path.head?, isSlash true c = true) ∧
      (∀ c ∈ path, c ≠ '?' ∧ c ≠ '#') ∧
      a = { bare scheme host (scheme.namedPort? (portOf (colon.drop 1))) with path := segments true path } := by
  have whole := List.takeWhile_append_dropWhile (p := fun c => !endsAuthority true c) (l := cs)
  have inside : ∀ c ∈ cs.takeWhile fun c => !endsAuthority true c, endsAuthority true c = false := by
    intro c hc
    simpa using List.mem_takeWhile_imp hc
  have stop := Text.head?_dropWhile_stop (p := fun c => !endsAuthority true c) cs
  simp only [readAuthority, isSpecial_of_web web] at read
  generalize cs.takeWhile (fun c => !endsAuthority true c) = authority at whole inside read
  generalize cs.dropWhile (fun c => !endsAuthority true c) = rest at whole stop read
  generalize parts : (splitLastAt authority).getD ([], authority) = split at read
  obtain ⟨nobody, hostPort⟩ := split
  split at read
  case isTrue => cases read
  case isFalse =>
    split at read
    case h_1 => cases read
    case h_2 found named remaining written =>
      split at read
      case isTrue => cases read
      case isFalse =>
        obtain rfl := Except.ok.inj read
        simp only at unnamed unlocked plain written
        obtain ⟨credentials, empty, rfl, unmarked⟩ := credentials_eq_nobody_iff.1
          ⟨by rw [parts]; exact Prod.ext unnamed unlocked, congrArg Prod.snd parts⟩
        have inner : ∀ c ∈ hostPort, endsAuthority true c = false := fun c hc =>
          inside c (List.mem_append_right _ hc)
        obtain ⟨host, rfl, parsed, digits, small, rfl, rfl⟩ := (readHostPort_eq_ok_iff web inner).1 written
        have split := splitHost_append false hostPort
        have tail : splitTail rest = ((splitTail rest).1, none, none) :=
          Prod.ext rfl (Prod.ext plain.1 plain.2)
        obtain ⟨same, plainPath⟩ := splitTail_eq_plain_iff.1 tail
        rw [← same] at plainPath
        refine ⟨credentials, (splitHost false hostPort).1, (splitHost false hostPort).2, rest, host, ?_, ?_, ?_,
          plainPath, ?_⟩
        · rw [split, whole]
        · exact ⟨empty, by rwa [split], by rwa [split], by rw [split], parsed, digits, small⟩
        · intro c hc
          have ends := stop c hc
          rw [Bool.not_eq_false'] at ends
          obtain ⟨query, fragment⟩ := plainPath c (List.mem_of_mem_head? hc)
          simpa [endsAuthority, query, fragment] using ends
        · have read := splitTail_eq_plain_iff.2 ⟨rfl, plainPath⟩
          simp only [bare, unnamed, unlocked, List.nil_append, read]

theorem readAuthority_scheme {a : Address} (read : readAuthority scheme cs = .ok a) : a.scheme = scheme := by
  simp only [readAuthority] at read
  split at read
  · cases read
  · split at read
    · cases read
    · split at read <;> cases read
      rfl

theorem readFile_scheme {a : Address} (read : readFile cs = .ok a) : a.scheme = .file := by
  unfold readFile at read
  split at read
  · split at read
    · split at read <;> cases read
      rfl
    · cases read
      rfl
  · cases read
    rfl

theorem readRest_scheme {a : Address} (read : readRest scheme cs = .ok a) : a.scheme = scheme := by
  cases scheme with
  | file => exact readFile_scheme read
  | other name =>
    unfold readRest at read
    simp only at read
    split at read
    · exact readAuthority_scheme read
    · cases read
      rfl
  | http | https | ws | wss | ftp => exact readAuthority_scheme read

theorem readRest_web (web : scheme.hasWebOrigin = true) :
    readRest scheme cs = readAuthority scheme (cs.dropWhile (isSlash true)) := by
  cases scheme <;> first | rfl | cases web

theorem segments_slash {c : Char} (slash : isSlash true c = true) (cs : List Char) :
    segments true (c :: cs) = followDots [] (Text.splitOn '/' (slashed true cs)) := by
  have front : slashed true (c :: cs) = '/' :: slashed true cs := congrArg (· :: slashed true cs) (if_pos slash)
  rw [segments, front]
  rfl

def follow (before : List (List Char)) (segment : List Char) : List (List Char) :=
  if isDotDot segment then before.drop 1 else if isDot segment then before else segment :: before

theorem followDots_cons {segments : List (List Char)} (more : segments ≠ []) (before : List (List Char))
    (segment : List Char) : followDots before (segment :: segments) = followDots (follow before segment) segments := by
  rw [followDots, follow]
  · split
    · rfl
    · split <;> rfl
  · exact more

theorem followDots_concat {before segments : List (List Char)} {last : List Char}
    (ends : segments.getLast? = some last) (filled : last ≠ []) (root : followDots before segments = [[]]) :
    followDots before (segments ++ [[]]) = [[]] := by
  induction segments generalizing before with
  | nil => cases ends
  | cons segment segments ih =>
    cases segments with
    | nil =>
      obtain rfl : segment = last := Option.some.inj ends
      -- A last segment that is not empty leads to the root only if it is made of dots.
      have followed : follow before segment = [] := by
        unfold followDots at root
        unfold follow
        split at root
        next up => simpa [up] using root
        next level =>
          split at root
          next dot => simpa [level, dot] using root
          next =>
            have last := congrArg List.getLast? root
            rw [List.getLast?_concat] at last
            exact absurd (Option.some.inj last) filled
      rw [List.singleton_append, followDots_cons (List.cons_ne_nil _ _), followed]
      rfl
    | cons next segments =>
      rw [List.cons_append, followDots_cons (by simp)]
      rw [followDots_cons (by simp)] at root
      exact ih ends root

theorem getLast?_slashed {path : List Char} (ends : ∀ c ∈ path.getLast?, isSlash true c = false) (some : path ≠ []) :
    (Text.splitOn '/' (slashed true path)).getLast? ≠ Option.some [] := by
  intro empty
  have last := List.getLast?_eq_some_getLast some
  have inner := ends _ last
  have same : (if isSlash true (path.getLast some) then '/' else path.getLast some) = '/' := by
    refine Text.getLast?_splitOn empty _ ?_
    rw [slashed, List.getLast?_map, last]
    rfl
  rw [inner, if_neg Bool.false_ne_true] at same
  rw [same] at inner
  cases inner

theorem IsRoot.slash {path : List Char} (root : IsRoot path) (ends : ∀ c ∈ path.getLast?, isSlash true c = false) :
    IsRoot (path ++ ['/']) := by
  refine ⟨?_, ?_, ?_⟩
  · cases path with
    | nil => simp [isSlash]
    | cons c path => exact root.starts
  · exact List.forall_mem_append.2 ⟨root.plain, by simp⟩
  · cases path with
    | nil => rfl
    | cons c path =>
      have slash := root.starts c rfl
      have followed := root.segments
      have some : path ≠ [] := by
        rintro rfl
        rw [ends c rfl] at slash
        cases slash
      have behind : (c :: path).getLast? = path.getLast? := List.getLast?_append_of_ne_nil [c] some
      have more : slashed true (path ++ ['/']) = slashed true path ++ ['/'] := List.map_append
      have filled := getLast?_slashed (behind ▸ ends) some
      have last := List.getLast?_eq_some_getLast (Text.splitOn_ne_nil '/' (slashed true path))
      rw [List.cons_append, segments_slash slash, more, Text.splitOn_concat]
      rw [segments_slash slash] at followed
      exact followDots_concat last (fun empty => filled (last.trans (congrArg Option.some empty))) followed

/-- A segment that is not made of dots is still there behind a slash. -/
theorem followDots_kept {before segments : List (List Char)} {last : List Char} (ends : segments.getLast? = some last)
    (level : isDotDot last = false) (plain : isDot last = false) : followDots before (segments ++ [[]]) ≠ [[]] := by
  induction segments generalizing before with
  | nil => cases ends
  | cons segment segments ih =>
    cases segments with
    | nil =>
      obtain rfl : segment = last := Option.some.inj ends
      rw [List.singleton_append, followDots_cons (List.cons_ne_nil _ _), follow, level, plain]
      intro same
      have lengths : ((segment :: before).reverse ++ [[]]).length = 1 := congrArg List.length same
      simp at lengths
    | cons next segments =>
      rw [List.cons_append, followDots_cons (by simp)]
      exact ih ends

theorem visible_of_dots {segment : List Char} (dots : isDotDot segment = true ∨ isDot segment = true) :
    ∀ c ∈ segment, isPadding c = false := by
  have written : ∀ n < 33, (Char.ofNat n).toLower ∉ ['.', '%', '2', 'e'] := by decide
  intro c hc
  have member : c.toLower ∈ segment.map Char.toLower := List.mem_map_of_mem hc
  have sign : c.toLower ∈ ['.', '%', '2', 'e'] := by
    simp only [isDotDot, isDot, List.contains_iff_mem, List.mem_cons, List.not_mem_nil, or_false] at dots
    rcases dots with (same | same | same | same) | same | same <;>
      · rw [same] at member
        grind
  rw [isPadding, decide_eq_false_iff_not]
  intro low
  have none := written c.toNat (Nat.lt_succ_of_le low)
  rw [Char.ofNat_toNat] at none
  exact none sign

theorem visible_of_slash {c : Char} (slash : isSlash true c = true) : isPadding c = false := by
  rw [isSlash, Bool.or_eq_true, Bool.and_eq_true, beq_iff_eq, beq_iff_eq] at slash
  rcases slash with rfl | ⟨_, rfl⟩ <;> rfl

/-- No control stands before a slash that ends a path back to its start. -/
theorem IsRoot.visible_before_slash {front : List Char} {c : Char} (root : IsRoot (front ++ [c, '/'])) :
    isPadding c = false := by
  cases front with
  | nil => exact visible_of_slash (root.starts c rfl)
  | cons d front =>
    by_cases slash : isSlash true c = true
    · exact visible_of_slash slash
    · have other : c ≠ '/' := by
        rintro rfl
        exact slash rfl
      have behind : slashed true (front ++ [c, '/']) = slashed true front ++ [c] ++ ['/'] := by
        simp only [slashed, List.map_append, List.map_cons, List.map_nil, if_neg slash, ite_self, List.append_assoc,
          List.singleton_append]
      obtain ⟨last, ends⟩ := Text.getLast?_splitOn_concat other (slashed true front)
      have followed := root.segments
      rw [List.cons_append, segments_slash (root.starts d rfl), behind, Text.splitOn_concat] at followed
      have dots : isDotDot (last ++ [c]) = true ∨ isDot (last ++ [c]) = true := by
        by_contra plain
        rw [not_or, Bool.not_eq_true, Bool.not_eq_true] at plain
        exact followDots_kept ends plain.1 plain.2 followed
      exact visible_of_dots dots c (List.mem_append_right _ (List.mem_singleton_self c))

end Address

end OriginRegistry
