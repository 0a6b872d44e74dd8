import TermTape.Loading.Loader
import TermTape.Proofs.Json.Reading

/-!
# Chains of pages

The pages that are met from a location on make a chain, in which each link is taken against its own
page (`chain?`). Loading goes along this chain and no farther than the limit: its outcome is that of
the first location that is no page or whose link fails, and it gives up exactly when the chain goes
on past the limit (`load_follows_chain`). A chain may well go in circles.
-/
namespace TermTape.Loading

variable {world : World} {limit : Nat} {start location target : Location} {fault : Fault}

/-! ## Chains -/

/-- The location that a location links to: a page stands there, and its link leads somewhere. -/
def linked? (world : World) (location : Location) : Option Location :=
  match fetch world location with
  | .ok (.page text base) => do
    let link ← Link.find? text
    (resolve (String.ofList link) base).toOption
  | _ => none

/-- The location that is reached after so many links. -/
def chain? (world : World) (start : Location) : Nat → Option Location
  | 0 => some start
  | k + 1 => (chain? world start k).bind (linked? world)

/-- The fault of a location: nothing can be fetched there, or a page whose link is missing or leads
nowhere. -/
inductive Stops (world : World) (location : Location) : Fault → Prop where
  | unreachable {fault : Fault} (failed : fetch world location = .error fault) :
      Stops world location fault
  | missing {text : List Char} {base : LinkBase}
      (found : fetch world location = .ok (.page text base)) (missing : Link.find? text = none) :
      Stops world location (.format (.linkMissing location.text))
  | nowhere {text link : List Char} {base : LinkBase} {fault : Fault}
      (found : fetch world location = .ok (.page text base)) (given : Link.find? text = some link)
      (failed : resolve (String.ofList link) base = .error fault) : Stops world location fault

/-- A chain goes on from the location that its start links to. -/
theorem chain?_succ (world : World) (start : Location) (k : Nat) :
    chain? world start (k + 1) = (linked? world start).bind (chain? world · k) := by
  induction k with
  | zero => cases h : linked? world start <;> simp [chain?, h]
  | succ k ih =>
    rw [chain?, ih, Option.bind_assoc]
    rfl

private theorem next_of_find? {text link : List Char} {base : LinkBase}
    (given : Link.find? text = some link) :
    next location text base = resolve (String.ofList link) base := by
  rw [next, given]

/-- A document stands at a location, or it has a fault, or it links to another. -/
theorem location_cases (world : World) (location : Location) :
    (∃ data, fetch world location = .ok (.document data)) ∨
      (∃ fault, Stops world location fault) ∨ ∃ target, linked? world location = some target := by
  cases found : fetch world location with
  | error fault => exact .inr (.inl ⟨fault, .unreachable found⟩)
  | ok resource =>
    cases resource with
    | document data => exact .inl ⟨data, rfl⟩
    | page text base =>
      cases given : Link.find? text with
      | none => exact .inr (.inl ⟨_, .missing found given⟩)
      | some link =>
        cases leads : resolve (String.ofList link) base with
        | error fault => exact .inr (.inl ⟨fault, .nowhere found given leads⟩)
        | ok target =>
          exact .inr (.inr ⟨target, by simp [linked?, found, given, leads, Except.toOption]⟩)

private theorem linked?_of_document {data : Bytes}
    (found : fetch world location = .ok (.document data)) :
    linked? world location = none := by
  simp [linked?, found]

private theorem linked?_of_stops (stops : Stops world location fault) :
    linked? world location = none := by
  cases stops with
  | unreachable failed => simp [linked?, failed]
  | missing found missing => simp [linked?, found, missing]
  | nowhere found given failed => simp [linked?, found, given, failed, Except.toOption]

/-- The page of a location that links to another. -/
theorem page_of_linked? (links : linked? world location = some target) :
    ∃ text base, fetch world location = .ok (.page text base) ∧
      next location text base = .ok target := by
  rw [linked?] at links
  split at links
  · rename_i text base found
    obtain ⟨link, given, leads⟩ := Option.bind_eq_some_iff.mp links
    exact ⟨text, base, found, (next_of_find? given).trans (ok_of_toOption leads)⟩
  · cases links

/-- What fails at a location that has a fault. -/
theorem fault_of_stops (stops : Stops world location fault) :
    fetch world location = .error fault ∨
      ∃ text base, fetch world location = .ok (.page text base) ∧
        next location text base = .error fault := by
  cases stops with
  | unreachable failed => exact .inl failed
  | missing found missing => exact .inr ⟨_, _, found, by rw [next, missing]⟩
  | nowhere found given failed => exact .inr ⟨_, _, found, (next_of_find? given).trans failed⟩

/-- A location whose outcome is settled there: it has a document or a fault. -/
def Settled (world : World) (location : Location) : Prop :=
  (∃ data, fetch world location = .ok (.document data)) ∨ ∃ fault, Stops world location fault

/-- A chain is settled up to a limit, or it goes on past it. -/
theorem chain?_cases (world : World) (limit : Nat) (start : Location) :
    (∃ k ≤ limit, ∃ location, chain? world start k = some location ∧ Settled world location) ∨
      ∃ location, chain? world start (limit + 1) = some location := by
  induction limit with
  | zero =>
    obtain document | stops | ⟨target, links⟩ := location_cases world start
    · exact .inl ⟨0, Nat.le_refl _, start, rfl, .inl document⟩
    · exact .inl ⟨0, Nat.le_refl _, start, rfl, .inr stops⟩
    · exact .inr ⟨target, links⟩
  | succ limit ih =>
    obtain ⟨k, within, settled⟩ | ⟨location, reached⟩ := ih
    · exact .inl ⟨k, Nat.le_succ_of_le within, settled⟩
    obtain document | stops | ⟨target, links⟩ := location_cases world location
    · exact .inl ⟨limit + 1, Nat.le_refl _, location, reached, .inl document⟩
    · exact .inl ⟨limit + 1, Nat.le_refl _, location, reached, .inr stops⟩
    · exact .inr ⟨target, by rw [chain?, reached, Option.bind_some, links]⟩

/-! ## Following -/

private theorem follow_of_document {data : Bytes}
    (found : fetch world location = .ok (.document data)) :
    follow world limit location = .ok (some data) := by
  rw [follow, found]
  rfl

private theorem follow_of_stops (stops : Stops world location fault) :
    follow world limit location = .error fault := by
  obtain found | ⟨text, base, found, leads⟩ := fault_of_stops stops
  · rw [follow, found]
    rfl
  · rw [follow, found]
    change next location text base >>= _ = _
    rw [leads]
    rfl

private theorem follow_zero (links : linked? world location = some target) :
    follow world 0 location = .ok none := by
  obtain ⟨text, base, found, leads⟩ := page_of_linked? links
  rw [follow, found]
  change next location text base >>= _ = _
  rw [leads]
  rfl

private theorem follow_succ (links : linked? world location = some target) :
    follow world (limit + 1) location = follow world limit target := by
  obtain ⟨text, base, found, leads⟩ := page_of_linked? links
  rw [follow, found]
  change next location text base >>= _ = _
  rw [leads]
  rfl

/-- Following a chain for some links is following from where they lead. -/
theorem follow_of_chain? {k : Nat} (reached : chain? world start k = some location) (left : Nat) :
    follow world (k + left) start = follow world left location := by
  induction k generalizing start with
  | zero =>
    obtain rfl := Option.some.inj reached
    rw [Nat.zero_add]
  | succ k ih =>
    rw [chain?_succ] at reached
    obtain ⟨target, links, reached⟩ := Option.bind_eq_some_iff.mp reached
    rw [Nat.add_right_comm, follow_succ links, ih reached]

/-- Following gives up exactly when the chain goes on past the limit. -/
theorem follow_eq_none_iff :
    follow world limit start = .ok none ↔
      ∃ location, chain? world start (limit + 1) = some location := by
  induction limit generalizing start with
  | zero =>
    rw [chain?_succ]
    obtain ⟨data, found⟩ | ⟨fault, stops⟩ | ⟨target, links⟩ := location_cases world start
    · simp [follow_of_document found, linked?_of_document found]
    · simp [follow_of_stops stops, linked?_of_stops stops]
    · simp [follow_zero links, links, chain?]
  | succ limit ih =>
    rw [chain?_succ]
    obtain ⟨data, found⟩ | ⟨fault, stops⟩ | ⟨target, links⟩ := location_cases world start
    · simp [follow_of_document found, linked?_of_document found]
    · simp [follow_of_stops stops, linked?_of_stops stops]
    · rw [follow_succ links, ih, links, Option.bind_some]

/-! ## What is fetched -/

/-- Following, with the locations that are fetched on the way. -/
def followLogged (world : World) : Nat → Location → List Location × Except Fault (Option Bytes)
  | limit, location =>
    match fetch world location with
    | .error fault => ([location], .error fault)
    | .ok (.document data) => ([location], .ok (some data))
    | .ok (.page text base) =>
      match next location text base with
      | .error fault => ([location], .error fault)
      | .ok target =>
        match limit with
        | 0 => ([location], .ok none)
        | limit + 1 =>
          let (later, outcome) := followLogged world limit target
          (location :: later, outcome)

private theorem followLogged_last (last : linked? world location = none) :
    followLogged world limit location = ([location], follow world limit location) := by
  obtain ⟨data, found⟩ | ⟨fault, stops⟩ | ⟨target, links⟩ := location_cases world location
  · rw [follow_of_document found, followLogged, found]
  · rw [follow_of_stops stops]
    obtain found | ⟨text, base, found, leads⟩ := fault_of_stops stops
    · rw [followLogged, found]
    · rw [followLogged, found]
      simp only [leads]
  · rw [links] at last
    cases last

private theorem followLogged_zero (links : linked? world location = some target) :
    followLogged world 0 location = ([location], .ok none) := by
  obtain ⟨text, base, found, leads⟩ := page_of_linked? links
  rw [followLogged, found]
  simp only [leads]

private theorem followLogged_succ (links : linked? world location = some target) :
    followLogged world (limit + 1) location =
      (location :: (followLogged world limit target).1, (followLogged world limit target).2) := by
  obtain ⟨text, base, found, leads⟩ := page_of_linked? links
  rw [followLogged, found]
  simp only [leads]

/-- The log leaves the outcome as it is. -/
theorem followLogged_outcome : (followLogged world limit start).2 = follow world limit start := by
  induction limit generalizing start with
  | zero =>
    cases links : linked? world start with
    | none => rw [followLogged_last links]
    | some target => rw [followLogged_zero links, follow_zero links]
  | succ limit ih =>
    cases links : linked? world start with
    | none => rw [followLogged_last links]
    | some target => rw [followLogged_succ links, follow_succ links, ih]

/-- The locations of a chain are fetched in turn, up to the limit. -/
theorem followLogged_log (k : Nat) :
    (followLogged world limit start).1[k]? = if k ≤ limit then chain? world start k else none := by
  induction limit generalizing start k with
  | zero =>
    have alone : (followLogged world 0 start).1 = [start] := by
      cases links : linked? world start with
      | none => rw [followLogged_last links]
      | some target => rw [followLogged_zero links]
    rw [alone]
    cases k with
    | zero => rfl
    | succ k => simp
  | succ limit ih =>
    cases links : linked? world start with
    | none =>
      rw [followLogged_last links]
      cases k with
      | zero => rfl
      | succ k => simp [chain?_succ, links]
    | some target =>
      rw [followLogged_succ links]
      cases k with
      | zero => rfl
      | succ k => simp [ih, chain?_succ, links]

private theorem length_followLogged_le : (followLogged world limit start).1.length ≤ limit + 1 := by
  have past : (followLogged world limit start).1[limit + 1]? = _ := followLogged_log _
  rw [if_neg (Nat.not_succ_le_self limit)] at past
  exact List.getElem?_eq_none_iff.mp past

/-! ## Faults -/

section Faults

variable {α β ε : Type} {P : Fault → Prop}

/-- Every fault of a result has a property. -/
def Faults (P : Fault → Prop) (x : Except Fault α) : Prop := ∀ fault, x = .error fault → P fault

theorem Faults.ok (a : α) : Faults P (.ok a) := nofun

theorem Faults.error (holds : P fault) : Faults P (.error fault : Except Fault α) := by
  rintro _ ⟨⟩
  exact holds

theorem Faults.mapError {x : Except ε α} {f : ε → Fault} (holds : ∀ cause, P (f cause)) :
    Faults P (x.mapError f) := by
  cases x with
  | error cause => exact .error (holds cause)
  | ok a => exact .ok a

theorem Faults.bind {x : Except Fault α} {f : α → Except Fault β} (first : Faults P x)
    (later : ∀ a, Faults P (f a)) : Faults P (x >>= f) := by
  cases x with
  | error fault => exact .error (first fault rfl)
  | ok a => exact later a

theorem Faults.ite {c : Prop} [Decidable c] {x y : Except Fault α} (h : Faults P x)
    (h' : Faults P y) : Faults P (if c then x else y) := by
  split
  · exact h
  · exact h'

end Faults

/-- The fault is not that of a chain that goes on past the limit. -/
def NotGivenUp (fault : Fault) : Prop := ∀ limit start, fault ≠ .format (.tooManyPages limit start)

private theorem ofDocument_notGivenUp (fault : DocumentFault) : NotGivenUp (.ofDocument fault) := by
  unfold Fault.ofDocument
  split <;> exact nofun

private theorem fetch_notGivenUp (location : Location) :
    Faults NotGivenUp (fetch world location) := by
  cases location with
  | standardInput =>
    rw [fetch]
    cases world.input with
    | error cause => exact .error nofun
    | ok data => exact .ok _
  | file path => exact (Faults.mapError fun _ => nofun).bind fun data => .ite (.ok _) (.ok _)
  | remote url => exact (Faults.mapError fun _ => nofun).bind fun given => .ite (.ok _) (.ok _)

private theorem read_notGivenUp (text : String) : Faults NotGivenUp (Location.read text) := by
  have url (text : String) : Faults NotGivenUp (Location.ofUrl text) := by
    unfold Location.ofUrl
    split
    · exact .ok _
    · exact .error nofun
  refine .ite (.ok _) ?_
  split
  · exact url _
  · exact .ite (url _) (.ok _)

private theorem resolve_notGivenUp (link : String) (base : LinkBase) :
    Faults NotGivenUp (resolve link base) := by
  cases base with
  | remote page =>
    rw [resolve]
    split
    · exact .ok _
    · exact .error nofun
  | directory directory =>
    refine (read_notGivenUp link).bind fun location => ?_
    cases location <;> exact .ok _

private theorem next_notGivenUp (location : Location) (text : List Char) (base : LinkBase) :
    Faults NotGivenUp (next location text base) := by
  unfold next
  split
  · exact .error nofun
  · exact resolve_notGivenUp _ base

private theorem follow_notGivenUp : Faults NotGivenUp (follow world limit start) := by
  induction limit generalizing start with
  | zero =>
    rw [follow]
    refine (fetch_notGivenUp start).bind fun resource => ?_
    cases resource with
    | document data => exact .ok _
    | page text base => exact (next_notGivenUp start text base).bind fun target => .ok _
  | succ limit ih =>
    rw [follow]
    refine (fetch_notGivenUp start).bind fun resource => ?_
    cases resource with
    | document data => exact .ok _
    | page text base => exact (next_notGivenUp start text base).bind fun target => ih

/-! ## Loading -/

private theorem load_of_document {data : Bytes}
    (found : follow world limit start = .ok (some data)) :
    load world limit start = (Recording.decode data).mapError .ofDocument := by
  rw [load, found]
  rfl

private theorem load_of_error (failed : follow world limit start = .error fault) :
    load world limit start = .error fault := by
  rw [load, failed]
  rfl

private theorem load_gives_up_iff :
    load world limit start = .error (.format (.tooManyPages limit start.text)) ↔
      follow world limit start = .ok none := by
  constructor
  · intro past
    cases found : follow world limit start with
    | error fault =>
      rw [load_of_error found] at past
      cases past
      exact absurd rfl (follow_notGivenUp _ found limit start.text)
    | ok given =>
      cases given with
      | none => rfl
      | some data =>
        -- a document that is malformed is another fault
        rw [load_of_document found] at past
        exact absurd rfl (Faults.mapError ofDocument_notGivenUp _ past limit start.text)
  · intro past
    rw [load, past]
    rfl

/-- Loading follows the chain of pages from its start. A document or a fault that is met up to the
limit is the outcome, and there is one unless the chain goes on past the limit, which is exactly
when loading gives up. It fetches the locations of the chain up to the limit, in turn, and no
others. -/
theorem load_follows_chain (world : World) (limit : Nat) (start : Location) :
    (∀ k ≤ limit, ∀ location, chain? world start k = some location →
      (∀ data, fetch world location = .ok (.document data) →
        load world limit start = (Recording.decode data).mapError .ofDocument) ∧
      ∀ fault, Stops world location fault → load world limit start = .error fault) ∧
    (load world limit start = .error (.format (.tooManyPages limit start.text)) ↔
      ∃ location, chain? world start (limit + 1) = some location) ∧
    ((∃ k ≤ limit, ∃ location, chain? world start k = some location ∧ Settled world location) ∨
      ∃ location, chain? world start (limit + 1) = some location) ∧
    (followLogged world limit start).2 = follow world limit start ∧
    (∀ k, (followLogged world limit start).1[k]? =
      if k ≤ limit then chain? world start k else none) ∧
    (followLogged world limit start).1.length ≤ limit + 1 := by
  refine ⟨fun k within location reached => ?_, load_gives_up_iff.trans follow_eq_none_iff,
    chain?_cases world limit start, followLogged_outcome, followLogged_log, length_followLogged_le⟩
  -- what is left of the limit does not matter where the chain is settled
  obtain ⟨left, rfl⟩ := Nat.exists_eq_add_of_le within
  have following := follow_of_chain? reached left
  constructor
  · intro data found
    exact load_of_document (following.trans (follow_of_document found))
  · intro fault stops
    exact load_of_error (following.trans (follow_of_stops stops))

/-! ## Pages on disk and on the network -/

/-- The bytes of a page that links to a recording. -/
def pageTo (link : String) : Bytes :=
  textBytes ("<link rel=alternate type=application/asciicast+json href=" ++ link ++ ">")

/-- A document of the least fields. -/
def shell : Bytes := textBytes "[1, 80, 24]"

/-- A network of a page that links to a document beside it. -/
def besidePage : Network := fun url =>
  if url = "http://h/" then
    some ⟨200, some (textBytes "text/html"), none, pageTo "shell.json"⟩
  else if url = "http://h/shell.json" then some ⟨200, none, none, shell⟩
  else none

/-- A disk with a page that links to the one of the network, and a page that links to itself. -/
def pages : World where
  disk := ((Disk.blank "home").plant "web.html" (pageTo "http://h/")).plant "loop.html"
    (pageTo "loop.html")
  network := besidePage
  input := .ok []

/-- The URL of the document on the network. -/
def besideUrl : Url :=
  ⟨Url.http, some ⟨[], [], .name ['h'], none⟩, .segments ["shell.json".toList], none, none⟩

/-- From a page on disk over one of the network to a document takes two links, and no fewer; a page
that links to itself leads nowhere. -/
theorem load_follows_pages :
    load pages 2 (.file "web.html") = (Recording.decode shell).mapError .ofDocument ∧
      (followLogged pages 2 (.file "web.html")).1[2]? = some (.remote besideUrl) ∧
      load pages 1 (.file "web.html") = .error (.format (.tooManyPages 1 "web.html")) ∧
      load pages 5 (.file "loop.html") = .error (.format (.tooManyPages 5 "loop.html")) := by
  have reached : chain? pages (.file "web.html") 2 = some (.remote besideUrl) := by
    decide +kernel
  have found : fetch pages (.remote besideUrl) = .ok (.document shell) := by
    rfl
  have circle : chain? pages (.file "loop.html") 6 = some (.file "loop.html") := by
    decide +kernel
  obtain ⟨outcome, -, -, -, log, -⟩ := load_follows_chain pages 2 (.file "web.html")
  obtain ⟨-, short, -⟩ := load_follows_chain pages 1 (.file "web.html")
  obtain ⟨-, endless, -⟩ := load_follows_chain pages 5 (.file "loop.html")
  exact ⟨(outcome 2 (Nat.le_refl 2) _ reached).1 _ found, (log 2).trans reached,
    short.mpr ⟨_, reached⟩, endless.mpr ⟨_, circle⟩⟩

end TermTape.Loading
