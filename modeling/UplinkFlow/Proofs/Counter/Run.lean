import UplinkFlow.Counter
import UplinkFlow.Proofs.Storage.Frame
import UplinkFlow.Proofs.Text.Decimal
import UplinkFlow.Proofs.Text.Utf8

/-!
# Runs of the sequence counter

What stands in the counter's file is looked at by location, so that it means the same whether or
not the folders on the way have been made yet.

* `content?`, `value?` — the bytes of the counter's file, and the number that they denote.
* `advance_cases` — **everything that one call can do**: either it succeeds with the number after
  the one in the file and leaves that number there, or it fails and leaves the file alone.
* `trace` — a run of calls, each with any computation, while others take and release locks.
* `trace_numbers` — successful calls of a run hand out consecutive numbers, and a call that fails
  leaves the content of the file exactly as it was.
-/

set_option autoImplicit false

namespace UplinkFlow

/-! ## Neighbouring files -/

namespace Place

theorem location_withSuffix_ne (p : Place) {suffix : String} (h : 2 < suffix.length) :
    (p.withSuffix suffix).location ≠ p.location := by
  have hlong : ∀ name : String, name.length < 3 → p.name ++ suffix ≠ name := by
    intro name hname heq
    have := congrArg String.length heq
    rw [String.length_append] at this
    omega
  have hself : p.name ++ suffix ≠ p.name := by
    intro heq
    have := congrArg String.length heq
    rw [String.length_append] at this
    omega
  have houter : Location.outerName.length < 3 := by decide
  show Location.enter (p.folders.foldl Location.enter p.start) (p.name ++ suffix) ≠
    Location.enter (p.folders.foldl Location.enter p.start) p.name
  generalize p.folders.foldl Location.enter p.start = l
  have hbeside : l.enter (p.name ++ suffix) = l ++ [p.name ++ suffix] := by
    rw [Location.enter, if_neg, if_neg]
    · exact hlong _ houter
    · rintro (heq | heq)
      · exact hlong "" (by decide) heq
      · exact hlong "." (by decide) heq
  rw [hbeside, Location.enter]
  split
  · simp
  · split
    · unfold Location.outer
      split
      · simp
      · split
        · simpa using hlong _ houter
        · intro heq
          have := congrArg List.length heq
          simp at this
          omega
    · simpa using hself

end Place

namespace Counter

variable {ε α : Type} {c : Counter} {s s' : Storage} {lift : CounterFault → ε}

theorem lockPlace_location_ne : c.lockPlace.location ≠ c.place.location :=
  c.place.location_withSuffix_ne (by decide)

theorem draftPlace_location_ne : c.draftPlace.location ≠ c.place.location :=
  c.place.location_withSuffix_ne (by decide)

/-! ## The number in the file -/

/-- The bytes of the counter's file, if there is one. -/
def content? (c : Counter) (s : Storage) : Option (List UInt8) :=
  match s.lookup c.place.location with
  | some (.file bytes) => some bytes
  | _ => none

/-- The number in the counter's file; a missing file stands for zero. -/
def value? (c : Counter) (s : Storage) : Option Nat :=
  match s.lookup c.place.location with
  | none => some 0
  | some .folder => none
  | some (.file bytes) => (Text.ofUtf8? bytes).bind fun content => (parse content).toOption

/-- Whether the folders of the counter's file are there. -/
def HasFolders (c : Counter) (s : Storage) : Prop :=
  ∀ l ∈ c.place.start.way c.place.folders, s.lookup l = some .folder

/-- The counter's file is as it was.  A folder may have been made in the place of a missing one. -/
def KeepsFile (c : Counter) (s s' : Storage) : Prop :=
  s'.lookup c.place.location = s.lookup c.place.location ∨
    (s.lookup c.place.location = none ∧ s'.lookup c.place.location = some .folder)

theorem KeepsFile.trans {s₁ s₂ s₃ : Storage} (h : KeepsFile c s₁ s₂) (h' : KeepsFile c s₂ s₃) :
    KeepsFile c s₁ s₃ := by
  rcases h' with e' | ⟨e', f'⟩ <;> rcases h with e | ⟨e, f⟩
  · exact .inl (e'.trans e)
  · exact .inr ⟨e, e'.trans f⟩
  · exact .inr ⟨e ▸ e', f'⟩
  · simp [f] at e'

theorem KeepsFile.content? (h : KeepsFile c s s') : c.content? s' = c.content? s := by
  unfold Counter.content?
  rcases h with e | ⟨e, f⟩
  · rw [e]
  · rw [e, f]

theorem KeepsFile.value? (h : KeepsFile c s s') {v : Nat} (hv : c.value? s' = some v) :
    c.value? s = some v := by
  unfold Counter.value? at hv ⊢
  rcases h with e | ⟨_, f⟩
  · rwa [e] at hv
  · simp [f] at hv

theorem parse_decimal {n : Nat} (h : n ≤ Text.maxWord) : parse (Text.decimal n) = .ok n := by
  have hne : (Text.decimal n).isEmpty = false := by simpa using Text.decimal_ne_empty n
  simp only [parse, Text.trim_decimal, hne, Text.readWord_decimal h]
  rfl

/-- Where the folders are there, the number in the file is the one that is read. -/
theorem read_eq_ok_iff {v : Nat} (hsound : Storage.IsSound c.place) (hway : c.HasFolders s) :
    c.read s = .ok v ↔ c.value? s = some v := by
  have hfind : s.find c.place = .ok (s.lookup c.place.location) :=
    Storage.find_eq_ok_iff.mpr ⟨hsound, hway, rfl⟩
  unfold read value? Storage.readText Storage.read
  rw [hfind]
  cases s.lookup c.place.location with
  | none => simp [bind, Except.bind]
  | some entry =>
    cases entry with
    | folder => simp [bind, Except.bind]
    | file bytes =>
      cases htext : Text.ofUtf8? bytes with
      | none => simp [bind, Except.bind, htext]
      | some content =>
        simp only [htext, bind, Except.bind, Option.bind_some]
        cases parse content with
        | error e => exact ⟨nofun, nofun⟩
        | ok n =>
          exact ⟨fun h => congrArg some (Except.ok.inj h),
            fun h => congrArg Except.ok (Option.some.inj h)⟩

/-! ## The parts of a call -/

theorem lock_spec (c : Counter) (s : Storage) :
    KeepsFile c s (c.lock s).2 ∧ (c.lock s).2.locked = s.locked := by
  obtain ⟨hgain, hway⟩ := s.makeFolders_spec c.lockPlace
  unfold lock
  split
  · rename_i fault made hmade
    rw [hmade] at hgain
    exact ⟨hgain.entry _, hgain.locked⟩
  · rename_i made hmade
    rw [hmade] at hgain
    split
    · exact ⟨hgain.entry _, hgain.locked⟩
    · rename_i opened hopen
      have hkeeps : KeepsFile c made opened ∧ opened.locked = made.locked := by
        obtain ⟨-, -, rfl | ⟨hnone, rfl⟩⟩ := Storage.openFile_cases hopen
        · exact ⟨.inl rfl, rfl⟩
        · exact ⟨.inl (Storage.lookup_put_of_ne lockPlace_location_ne.symm), rfl⟩
      have hall := And.intro (KeepsFile.trans (hgain.entry _) hkeeps.1)
        (hkeeps.2.trans hgain.locked)
      split <;> exact hall

theorem next_eq_ok {n : Nat} (h : c.next s = .ok n) :
    ∃ v, c.read s = .ok v ∧ v < Text.maxWord ∧ n = v + 1 := by
  obtain ⟨v, hread, h⟩ := bind_eq_ok_iff.mp h
  split at h
  · rename_i hlt
    exact ⟨v, hread, hlt, (Except.ok.inj h).symm⟩
  · cases h

/-- A number that cannot be stored leaves the counter's file alone. -/
theorem store_error {n : Nat} {fault : CounterFault} (h : c.store n s = (.error fault, s')) :
    KeepsFile c s s' ∧ s'.locked = s.locked := by
  unfold store at h
  split at h
  · cases h
    exact ⟨.inl rfl, rfl⟩
  · rename_i written hwritten
    obtain ⟨-, rfl⟩ := Storage.replace_spec hwritten
    split at h
    · cases h
      exact ⟨.inl (Storage.lookup_put_of_ne draftPlace_location_ne.symm), rfl⟩
    · cases h

/-- What a stored number has changed and what it has needed. -/
structure Stores (c : Counter) (n : Nat) (s s' : Storage) : Prop where
  sound : Storage.IsSound c.place
  before : c.HasFolders s
  after : c.HasFolders s'
  entry : s'.lookup c.place.location = some (.file (Text.utf8Bytes (Text.decimal n)))
  locked : s'.locked = s.locked

theorem store_ok {n : Nat} (h : c.store n s = (.ok (), s')) : Stores c n s s' := by
  unfold store at h
  split at h
  · cases h
  · rename_i written hwritten
    obtain ⟨hdraft, rfl⟩ := Storage.replace_spec hwritten
    split at h
    · cases h
    · rename_i renamed hrename
      cases h
      obtain ⟨bytes, hbytes, hsound, hway, htarget, rfl⟩ := Storage.rename_spec hrename
      rw [Storage.lookup_put_self (Storage.isFixed_of_lookup_ne hdraft)] at hbytes
      cases hbytes
      -- a folder on the way is neither the draft nor the counter's file
      have hne : ∀ l ∈ c.place.start.way c.place.folders,
          l ≠ c.draftPlace.location ∧ l ≠ c.place.location := by
        intro l hl
        refine ⟨?_, ?_⟩
        · rintro rfl
          have hfolder := hway _ hl
          rw [Storage.lookup_put_self (Storage.isFixed_of_lookup_ne hdraft)] at hfolder
          cases hfolder
        · rintro rfl
          exact htarget (hway _ hl)
      refine ⟨hsound, fun l hl => ?_, fun l hl => ?_, ?_, rfl⟩
      · rw [← Storage.lookup_put_of_ne (hne l hl).1]
        exact hway l hl
      · rw [Storage.lookup_put_of_ne (hne l hl).2, Storage.lookup_remove_of_ne (hne l hl).1]
        exact hway l hl
      · exact Storage.lookup_put_self (Storage.isFixed_of_lookup_ne htarget)

theorem Stores.value? {n : Nat} (h : Stores c n s s') (hn : n ≤ Text.maxWord) :
    c.value? s' = some n := by
  simp [Counter.value?, h.entry, Text.ofUtf8?_utf8Bytes, parse_decimal hn, Except.toOption]

theorem Stores.content? {n : Nat} (h : Stores c n s s') :
    c.content? s' = some (Text.utf8Bytes (Text.decimal n)) := by
  simp [Counter.content?, h.entry]

/-! ## One call -/

/-- The number that a call offers to its computation, if it gets as far as that. -/
def offer? (c : Counter) (s : Storage) : Option Nat :=
  match c.lock s with
  | (.ok (), s) => (c.next s).toOption
  | (.error _, _) => none

theorem offer?_eq_some {n : Nat} (hlock : c.lock s = (.ok (), s')) (hnext : c.next s' = .ok n) :
    c.offer? s = some n := by
  unfold offer?
  rw [hlock]
  simp only [hnext]
  rfl

/-- What a successful call has done: it has offered the number `n`, which is one more than the
number in the file, and has stored it. -/
structure Issues (c : Counter) (n : Nat) (s s' : Storage) : Prop where
  offered : c.offer? s = some n
  bound : n ≤ Text.maxWord
  before : ∃ v, c.value? s = some v ∧ (c.HasFolders s → c.read s = .ok v) ∧ n = v + 1
  value : c.value? s' = some n
  content : c.content? s' = some (Text.utf8Bytes (Text.decimal n))
  read : c.read s' = .ok n
  locked : s'.locked = s.locked

/-- **Everything that a call can do.** -/
theorem advance_cases {build : Nat → Except ε α} {result : Except ε α}
    (h : c.advance lift build s = (result, s')) :
    (∃ e, result = .error e ∧ KeepsFile c s s' ∧ s'.locked = s.locked) ∨
      (∃ n a, result = .ok a ∧ build n = .ok a ∧ Issues c n s s') := by
  obtain ⟨hkeeps, hlocked⟩ := lock_spec c s
  unfold advance at h
  split at h
  · rename_i fault held hlock
    cases h
    rw [hlock] at hkeeps hlocked
    exact .inl ⟨_, rfl, hkeeps, hlocked⟩
  · rename_i held hlock
    rw [hlock] at hkeeps hlocked
    split at h
    · cases h
      exact .inl ⟨_, rfl, hkeeps, hlocked⟩
    · rename_i n hnext
      split at h
      · cases h
        exact .inl ⟨_, rfl, hkeeps, hlocked⟩
      · rename_i a hbuild
        split at h
        · rename_i fault stored hstore
          cases h
          obtain ⟨hkeeps', hlocked'⟩ := store_error hstore
          exact .inl ⟨_, rfl, hkeeps.trans hkeeps', hlocked'.trans hlocked⟩
        · rename_i stored hstore
          cases h
          have hstores := store_ok hstore
          obtain ⟨v, hread, hlt, rfl⟩ := next_eq_ok hnext
          have hvalue := (read_eq_ok_iff hstores.sound hstores.before).mp hread
          have hafter := hstores.value? (by omega)
          exact .inr ⟨v + 1, a, rfl, hbuild, offer?_eq_some hlock hnext, by omega,
            ⟨v, hkeeps.value? hvalue,
              fun hway => (read_eq_ok_iff hstores.sound hway).mpr (hkeeps.value? hvalue), rfl⟩,
            hafter, hstores.content?, (read_eq_ok_iff hstores.sound hstores.after).mpr hafter,
            hstores.locked.trans hlocked⟩

/-! ## Runs -/

/-- A call of a run: the files that others hold locked meanwhile, and the computation. -/
structure Call (ε α : Type) where
  locked : List Location
  build : Nat → Except ε α

/-- A call that has been made, between two states of the files. -/
structure Step (ε α : Type) where
  before : Storage
  call : Call ε α
  result : Except ε α
  after : Storage

def Step.of (c : Counter) (lift : CounterFault → ε) (s : Storage) (call : Call ε α) :
    Step ε α where
  before := { s with locked := call.locked }
  call := call
  result := (c.advance lift call.build { s with locked := call.locked }).1
  after := (c.advance lift call.build { s with locked := call.locked }).2

/-- The steps of a run.  Between two calls others may take and release locks, but they write no
files. -/
def trace (c : Counter) (lift : CounterFault → ε) :
    Storage → List (Call ε α) → List (Step ε α)
  | _, [] => []
  | s, call :: rest =>
    Step.of c lift s call :: trace c lift (Step.of c lift s call).after rest

def successes (steps : List (Step ε α)) : Nat := steps.countP fun step => step.result.isOk

theorem Step.of_advance (s : Storage) (call : Call ε α) :
    c.advance lift (Step.of c lift s call).call.build (Step.of c lift s call).before =
      ((Step.of c lift s call).result, (Step.of c lift s call).after) := by
  simp only [Step.of]

theorem Step.result_eq_ok {step : Step ε α} {a : α} (h : step.result.toOption = some a) :
    step.result = .ok a := by
  cases hresult : step.result with
  | error e => simp [hresult, Except.toOption] at h
  | ok b => simpa [hresult, Except.toOption] using h

theorem trace_call {calls : List (Call ε α)} {step : Step ε α}
    (h : step ∈ c.trace lift s calls) : step.call ∈ calls := by
  induction calls generalizing s with
  | nil => simp [trace] at h
  | cons call rest ih =>
    rcases List.mem_cons.mp h with rfl | h
    · exact List.mem_cons_self
    · exact List.mem_cons_of_mem call (ih h)

theorem trace_advance {calls : List (Call ε α)} {step : Step ε α}
    (h : step ∈ c.trace lift s calls) :
    c.advance lift step.call.build step.before = (step.result, step.after) := by
  induction calls generalizing s with
  | nil => simp [trace] at h
  | cons call rest ih =>
    rcases List.mem_cons.mp h with rfl | h
    · exact Step.of_advance s call
    · exact ih h

/-- One step counts the number in the file up if it succeeds, and only then. -/
theorem Step.value? {step : Step ε α} {v : Nat}
    (h : c.advance lift step.call.build step.before = (step.result, step.after))
    (hv : c.value? step.after = some v) :
    ∃ u, c.value? step.before = some u ∧ v = u + successes [step] := by
  rcases advance_cases h with ⟨e, hresult, hkeeps, -⟩ | ⟨n, a, hresult, -, hissues⟩
  · exact ⟨v, hkeeps.value? hv, by simp [successes, hresult, Except.isOk, Except.toBool]⟩
  · obtain ⟨u, hu, -, rfl⟩ := hissues.before
    have hn : u + 1 = v := by simpa [hissues.value] using hv
    exact ⟨u, hu, by simp [successes, hresult, Except.isOk, Except.toBool, hn]⟩

/-- The number in the file is the first one plus the number of successful calls. -/
theorem trace_value {calls : List (Call ε α)} {earlier later : List (Step ε α)} {step : Step ε α}
    (h : c.trace lift s calls = earlier ++ step :: later) {v : Nat}
    (hv : c.value? step.before = some v) :
    ∃ u, c.value? s = some u ∧ v = u + successes earlier := by
  induction earlier generalizing s calls with
  | nil =>
    cases calls with
    | nil => simp [trace] at h
    | cons call rest =>
      rw [trace, List.nil_append, List.cons.injEq] at h
      rw [← h.1] at hv
      exact ⟨v, hv, by simp [successes]⟩
  | cons first earlier ih =>
    cases calls with
    | nil => simp [trace] at h
    | cons call rest =>
      rw [trace, List.cons_append, List.cons.injEq] at h
      obtain ⟨w, hw, hv⟩ := ih h.2
      obtain ⟨u, hu, hw⟩ := Step.value? (Step.of_advance s call) hw
      rw [h.1] at hw
      refine ⟨u, hu, ?_⟩
      simp only [successes, List.countP_cons, List.countP_nil] at hv hw ⊢
      omega

/-- A call that succeeds has been made with the next number of the run. -/
theorem trace_ok {calls : List (Call ε α)} {earlier later : List (Step ε α)} {step : Step ε α}
    (h : c.trace lift s calls = earlier ++ step :: later) {a : α} (ha : step.result = .ok a) :
    ∃ v, c.value? s = some v ∧ step.call.build (v + successes earlier + 1) = .ok a ∧
      Issues c (v + successes earlier + 1) step.before step.after := by
  have hstep : c.advance lift step.call.build step.before = (step.result, step.after) :=
    trace_advance (h ▸ List.mem_append_right earlier List.mem_cons_self)
  rcases advance_cases hstep with ⟨e, hresult, -⟩ | ⟨n, a', hresult, hbuild, hissues⟩
  · simp [hresult] at ha
  · obtain rfl : a' = a := by simpa [hresult] using ha
    obtain ⟨u, hu, -, rfl⟩ := hissues.before
    obtain ⟨v, hv, rfl⟩ := trace_value h hu
    exact ⟨v, hv, hbuild, hissues⟩

theorem trace_error {calls : List (Call ε α)} {step : Step ε α} (h : step ∈ c.trace lift s calls)
    {e : ε} (he : step.result = .error e) : KeepsFile c step.before step.after := by
  rcases advance_cases (trace_advance h) with ⟨e', -, hkeeps, -⟩ | ⟨n, a, hresult, -⟩
  · exact hkeeps
  · simp [hresult] at he

/-- **Successful calls hand out consecutive numbers, and failing calls change nothing.**  In every
run, whatever stands at the counter's path, beside it and in its way at first, a call that succeeds
has handed out the number in the file plus one and leaves that number in the file; counted from the
first value of the run this is the next number.  A call that fails leaves the content of the file
as it was. -/
theorem trace_numbers {calls : List (Call ε α)} {earlier later : List (Step ε α)}
    {step : Step ε α} (h : c.trace lift s calls = earlier ++ step :: later) :
    (∀ a, step.result = .ok a → ∃ v, c.value? s = some v ∧
      step.call.build (v + successes earlier + 1) = .ok a ∧
      Issues c (v + successes earlier + 1) step.before step.after) ∧
    (∀ e, step.result = .error e → c.content? step.after = c.content? step.before) := by
  have hmem : step ∈ c.trace lift s calls := h ▸ List.mem_append_right earlier List.mem_cons_self
  exact ⟨fun a ha => trace_ok h ha, fun e he => (trace_error hmem he).content?⟩

/-- A failing computation and a lock that others hold use up no number. -/
theorem trace_numbers_after_failures :
    let c := atPath "state/count" 1000
    let s : Storage :=
      ⟨[((1, ["state"]), .folder), ((2, ["state", "count"]), .file [52, 49, 10])], []⟩
    let calls : List (Call CounterFault Nat) :=
      [⟨[], fun n => .error (.corrupt "build" (Text.decimal n))⟩,
        ⟨[["state", "count.lock"]], .ok⟩, ⟨[], .ok⟩, ⟨[], .ok⟩]
    ∃ earlier step, c.trace id s calls = earlier ++ [step] ∧ successes earlier = 1 ∧
      step.result = .ok 43 ∧ c.value? s = some 41 ∧ Issues c 43 step.before step.after := by
  intro c s calls
  obtain ⟨earlier, step, hrun, hcount, hoption⟩ : ∃ earlier step,
      c.trace id s calls = earlier ++ [step] ∧ successes earlier = 1 ∧
        step.result.toOption = some 43 :=
    ⟨[_, _, _], _, rfl, by decide +kernel, by decide +kernel⟩
  have hvalue : c.value? s = some 41 := by decide +kernel
  have hresult : step.result = .ok 43 := Step.result_eq_ok hoption
  obtain ⟨v, hv, -, hissues⟩ := (trace_numbers hrun).1 43 hresult
  obtain rfl : 41 = v := by simpa [hvalue] using hv
  rw [hcount] at hissues
  exact ⟨earlier, step, hrun, hcount, hresult, hvalue, hissues⟩

end Counter

end UplinkFlow
