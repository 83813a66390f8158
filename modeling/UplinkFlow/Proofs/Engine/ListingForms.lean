import UplinkFlow.Proofs.Engine.Indifference
import UplinkFlow.Proofs.Engine.Matching
import UplinkFlow.Proofs.Engine.Protocol
import UplinkFlow.Proofs.Flow.Shape
import UplinkFlow.Proofs.Json.ReadBack

/-!
# The two forms of a listing

An engine may list its nodes as an array, or as an object that has the array under `flows`.

* `Listing.SameNodes` — two texts with the same array of nodes, one in each form.
* `Listing.SameNodes.ofText?_eq` — both are read as the same listing, or neither is.
* `EitherForm` — outcomes that differ in the form of a listing at most.
* `Conversation.CannotTell`, `forms_indistinguishable` — **the form makes no difference to a
  deployment or a deletion**, whatever the nodes and the other members are, as long as these have
  keys and values.
* `Listing.ofText?_eq_none`, `forms_told_apart_by_number` — an object with a member that has no
  value is refused for that alone, and then the form does make a difference.
-/

set_option autoImplicit false

namespace UplinkFlow

open Text (utf8Bytes)

/-! ## Members that are passed over -/

namespace Outline

theorem isBroken_of_isSome_toJson? {o : Outline} (h : o.toJson?.isSome) : o.isBroken = false := by
  cases o with
  | arr deep items whole => cases whole <;> simp_all [toJson?, isBroken]
  | obj deep members whole => cases whole <;> simp_all [toJson?, isBroken]
  | missing => cases h
  | _ => rfl

theorem isSome_toMembers?_iff {members : List (Option String × Outline)} {before : Members} :
    (toMembers? before members).isSome ↔ ∀ m ∈ members, m.1.isSome ∧ m.2.toJson?.isSome := by
  induction members generalizing before with
  | nil => simp [toMembers?]
  | cons m members ih =>
    obtain ⟨_ | key, value⟩ := m
    · simp [toMembers?]
    · rw [toMembers?, List.forall_mem_cons]
      cases value.toJson? with
      | none => simp
      | some j => simpa using ih

/-- An object can be kept exactly if each of its members has a key and a value. -/
theorem isSome_toJson?_obj {members : List (Option String × Outline)} :
    (obj false members true).toJson?.isSome ↔ ∀ m ∈ members, m.1.isSome ∧ m.2.toJson?.isSome := by
  simp [toJson?, isSome_toMembers?_iff]

theorem ofMembers_eq_map (ms : Members) :
    ofMembers ms = ms.map fun m => (some m.1, ofJson m.2) := by
  induction ms with
  | nil => rfl
  | cons m ms ih => rw [ofMembers, ih, List.map_cons]

end Outline

theorem Reader.members_skip {σ : Type} {slots : List (Slot σ)}
    {ms : List (Option String × Outline)} (rest : List (Option String × Outline)) (s : σ)
    (h : ∀ m ∈ ms, ∃ key, m.1 = some key ∧ (slots.find? fun slot => slot.key == key) = none ∧
      m.2.isBroken = false) : members slots skip (ms ++ rest) s = members slots skip rest s := by
  induction ms with
  | nil => rfl
  | cons m ms ih =>
    obtain ⟨⟨key, hkey, hfind, hvalue⟩, hms⟩ := List.forall_mem_cons.mp h
    obtain ⟨_, value⟩ := m
    obtain rfl := hkey
    have hskip : member slots key value s = .ok s := by
      simp only [member, hfind, skip]
      exact if_neg (Bool.eq_false_iff.mp hvalue)
    rw [List.cons_append, members_cons, hskip]
    exact ih hms

namespace Engine

/-! ## One listing in two forms -/

namespace Listing

/-- A member that stands beside the nodes: it has another key than they have, and a value. -/
structure IsAside (m : Option String × Outline) : Prop where
  key : ∃ key, m.1 = some key ∧ key ≠ "flows"
  value : m.2.toJson?.isSome

/-- A text of an array, and a text of an object that has the same array under `flows`, once, among
any other members.  Neither is nested deeper than a reader follows, so that the elements are met
in the same way in both. -/
inductive SameNodes (flat wrapped : String) : Prop where
  | intro {items : List Outline} {before after : List (Option String × Outline)}
    (array : Outline.ofText flat = ⟨.arr false items true, true⟩)
    (object : Outline.ofText wrapped =
      ⟨.obj false (before ++ (some "flows", .arr false items true) :: after) true, true⟩)
    (aside : ∀ m ∈ before ++ after, IsAside m)

variable {items : List Outline} {before after : List (Option String × Outline)}
  {flat wrapped : String}

/-- The slot of the nodes. -/
abbrev nodesSlot : Reader.Slot (Option Listing) :=
  Reader.slot "flows" nodes id fun a _ => some a

theorem IsAside.skipped {m : Option String × Outline} (h : IsAside m) : ∃ key, m.1 = some key ∧
    ([nodesSlot].find? fun slot => slot.key == key) = none ∧ m.2.isBroken = false := by
  obtain ⟨key, hm, hkey⟩ := h.key
  refine ⟨key, hm, ?_, Outline.isBroken_of_isSome_toJson? h.value⟩
  exact List.find?_cons_of_neg (by simpa [Reader.slot] using Ne.symm hkey)

theorem members_wrapped (h : ∀ m ∈ before ++ after, IsAside m) :
    Reader.members [nodesSlot] Reader.skip
        (before ++ (some "flows", .arr false items true) :: after) none =
      (nodes (.arr false items true)).map some := by
  obtain ⟨hbefore, hafter⟩ := List.forall_mem_append.mp h
  have hslot : Reader.member [nodesSlot] "flows" (.arr false items true) none =
      (nodes (.arr false items true)).map some := rfl
  rw [Reader.members_skip _ _ fun m hm => (hbefore m hm).skipped, Reader.members_cons, hslot]
  cases nodes (.arr false items true) with
  | error fault => rfl
  | ok listing =>
    rw [← List.append_nil after]
    exact Reader.members_skip [] (some listing) fun m hm => (hafter m hm).skipped

/-- An object is read as the array of its nodes, and fails as that does. -/
theorem reader_wrapped (h : ∀ m ∈ before ++ after, IsAside m) :
    reader (.obj false (before ++ (some "flows", .arr false items true) :: after) true) =
      reader (.arr false items true) := by
  simp only [reader, Reader.record, pure_bind, members_wrapped h, Bool.false_eq_true, if_false,
    Bool.not_true]
  cases nodes (.arr false items true) <;> rfl

theorem isSome_toJson?_wrapped (h : ∀ m ∈ before ++ after, IsAside m) :
    Option.isSome (Outline.toJson?
        (.obj false (before ++ (some "flows", .arr false items true) :: after) true)) =
      Option.isSome (Outline.toJson? (.arr false items true)) := by
  have haside : ∀ m ∈ before ++ after, m.1.isSome ∧ m.2.toJson?.isSome := fun m hm => by
    obtain ⟨⟨key, hkey, -⟩, hvalue⟩ := h m hm
    exact ⟨by rw [hkey]; rfl, hvalue⟩
  obtain ⟨hbefore, hafter⟩ := List.forall_mem_append.mp haside
  rw [Bool.eq_iff_iff, Outline.isSome_toJson?_obj, List.forall_mem_append, List.forall_mem_cons]
  exact ⟨fun hall => hall.2.1.2, fun harray => ⟨hbefore, ⟨rfl, harray⟩, hafter⟩⟩

/-- Both texts are read as the same listing, or neither is. -/
theorem SameNodes.ofText?_eq (h : SameNodes flat wrapped) : ofText? flat = ofText? wrapped := by
  obtain ⟨hflat, hwrapped, haside⟩ := h
  simp only [ofText?, hflat, hwrapped, reader_wrapped haside, isSome_toJson?_wrapped haside]

theorem SameNodes.ofBytes?_eq (h : SameNodes flat wrapped) :
    ofBytes? (utf8Bytes flat) = ofBytes? (utf8Bytes wrapped) := by
  simp only [ofBytes?, Text.ofUtf8?_utf8Bytes, Option.bind_some, h.ofText?_eq]

/-- An object with a member that has no value is refused, whatever its nodes are. -/
theorem ofText?_eq_none {members : List (Option String × Outline)}
    (object : Outline.ofText wrapped = ⟨.obj false members true, true⟩)
    {m : Option String × Outline} (hm : m ∈ members) (hvalue : m.2.toJson? = none) :
    ofText? wrapped = none := by
  have hunkept : ¬(Outline.obj false members true).toJson?.isSome = true := by
    intro hkept
    have hsome := (Outline.isSome_toJson?_obj.mp hkept m hm).2
    rw [hvalue] at hsome
    cases hsome
  simp only [ofText?, object, Bool.true_and, if_neg hunkept]

/-- What is written of an array and of an object with the array. -/
theorem sameNodes_of_isWrittenAs {items : List Json} {before after : Members}
    (hback : (Json.obj (before ++ ("flows", .arr items) :: after)).ReadsBack)
    (hother : ∀ m ∈ before ++ after, m.1 ≠ "flows")
    (hflat : (Json.arr items).IsWrittenAs flat)
    (hwrapped : (Json.obj (before ++ ("flows", .arr items) :: after)).IsWrittenAs wrapped) :
    SameNodes flat wrapped := by
  have hitems : (Json.arr items).ReadsBack :=
    (Json.readsBackWithin_obj.mp hback ("flows", .arr items) (by simp)).mono (by decide)
  have harray : Outline.ofText flat = ⟨.arr false (Outline.ofItems items) true, true⟩ := by
    rw [Outline.ofText_of_isWrittenAs hflat, Outline.ofPrinted_of_readsBack hitems, Outline.ofJson]
  have hobject : Outline.ofText wrapped = ⟨.obj false (Outline.ofMembers before ++
      (some "flows", .arr false (Outline.ofItems items) true) :: Outline.ofMembers after) true,
      true⟩ := by
    rw [Outline.ofText_of_isWrittenAs hwrapped, Outline.ofPrinted_of_readsBack hback,
      Outline.ofJson, Outline.ofMembers_eq_map, List.map_append, List.map_cons, Outline.ofJson,
      ← Outline.ofMembers_eq_map, ← Outline.ofMembers_eq_map]
  refine .intro harray hobject fun m hm => ?_
  rw [Outline.ofMembers_eq_map, Outline.ofMembers_eq_map, ← List.map_append] at hm
  obtain ⟨⟨key, value⟩, hmember, rfl⟩ := List.mem_map.mp hm
  obtain ⟨j, hj⟩ := Outline.exists_toJson? value
  exact ⟨⟨key, rfl, hother _ hmember⟩, by rw [hj]; rfl⟩

end Listing

/-! ## Conversations -/

/-- Outcomes that are the same, but for answers to a request for the listing: one of them may have
it in one form, and the other in the other form. -/
inductive EitherForm (flat wrapped : String) : Request → Outcome → Outcome → Prop where
  | same (request : Request) (outcome : Outcome) : EitherForm flat wrapped request outcome outcome
  | listing {request : Request} (reads : request.method = .get) (status : Nat) :
    EitherForm flat wrapped request (.answered ⟨status, .whole (utf8Bytes flat)⟩)
      (.answered ⟨status, .whole (utf8Bytes wrapped)⟩)

variable {flat wrapped : String} {request : Request} {outcome outcome' : Outcome} {c : Client}

namespace EitherForm

theorem isUnconnected_eq (h : EitherForm flat wrapped request outcome outcome') :
    outcome.isUnconnected = outcome'.isUnconnected := by
  cases h <;> rfl

theorem eq_of_change (h : EitherForm flat wrapped request outcome outcome')
    (hchange : request.method ≠ .get) : outcome = outcome' := by
  cases h with
  | same => rfl
  | listing reads => exact absurd reads hchange

end EitherForm

/-- Either form is read as the same listing, or leaves the same fault. -/
theorem readListing_eq (h : Listing.SameNodes flat wrapped) (url : Url) (status : Nat) :
    Client.readListing url ⟨status, .whole (utf8Bytes flat)⟩ =
      Client.readListing url ⟨status, .whole (utf8Bytes wrapped)⟩ := by
  simp only [Client.readListing, h.ofBytes?_eq]

/-- A change is sent and its response checked, in which listings play no part. -/
theorem ignores_change {α : Type} {method : Method} {url : Url} {body : Option Json}
    {rest : Response → Exchange α} {check : Response → Except Fault α}
    (hchange : method ≠ .get) (hrest : ∀ response, (rest response).run = .done (check response)) :
    (c.send method url body >>= rest).run.Ignores (EitherForm flat wrapped) := by
  refine ignores_send (fun _ _ h => h.isUnconnected_eq) (fun _ _ h => ?_) fun response => ?_
  · rw [h.eq_of_change hchange]
  · rw [hrest]
    exact .done _

/-- The listing is asked for, and its form makes no difference to what follows. -/
theorem ignores_list {α : Type} (h : Listing.SameNodes flat wrapped) {rest : Listing → Exchange α}
    (hrest : ∀ listing, (rest listing).run.Ignores (EitherForm flat wrapped)) :
    (c.list >>= rest).run.Ignores (EitherForm flat wrapped) := by
  rw [Client.list, bind_assoc]
  refine ignores_send (fun _ _ h => h.isUnconnected_eq) (fun _ _ hlike => ?_) fun response => ?_
  · cases hlike with
    | same => rfl
    | listing reads status =>
      simp only [Client.follow, Client.settle, readListing_eq h]
  · cases Client.readListing (c.endpoint ["flows"]) response with
    | error fault => exact .done _
    | ok listing => exact hrest listing

theorem ignores_deploy (h : Listing.SameNodes flat wrapped) (flow : Flow) :
    (c.deploy flow).run.Ignores (EitherForm flat wrapped) := by
  unfold Client.deploy
  split
  · exact .done _
  · rename_i sub hsub
    refine ignores_list h fun listing => ?_
    cases listing.tabId? sub.label with
    | none => exact ignores_change nofun (run_checkChange .created)
    | some id => exact ignores_change nofun (run_checkChange .updated)

theorem ignores_delete (h : Listing.SameNodes flat wrapped) (label : String) :
    (c.delete label).run.Ignores (EitherForm flat wrapped) := by
  refine ignores_list h fun listing => ?_
  cases listing.tabId? label with
  | none => exact .done _
  | some id => exact ignores_change nofun (run_checkDeletion id)

/-- **The form of a listing makes no difference.**  Of two engines that answer alike, but for the
form in which they list the same nodes, no deployment and no deletion can tell one from the other:
it ends in the same way after the same requests.  In particular the array is refused exactly if the
object is. -/
theorem forms_indistinguishable (h : Listing.SameNodes flat wrapped) {engine engine' : Behaviour}
    (hengines : Likeness.OfEngines (EitherForm flat wrapped) engine engine') (c : Client)
    (flow : Flow) (label : String) :
    (c.deploy flow).run.CannotTell engine engine' ∧
      (c.delete label).run.CannotTell engine engine' ∧
      ∀ url, Client.readListing url ⟨200, .whole (utf8Bytes flat)⟩ = .error .invalidListing ↔
        Client.readListing url ⟨200, .whole (utf8Bytes wrapped)⟩ = .error .invalidListing := by
  refine ⟨(ignores_deploy h flow).cannotTell hengines, (ignores_delete h label).cannotTell hengines,
    fun url => ?_⟩
  rw [readListing_eq h]

/-- A listing of a tab with the label, in its other form. -/
def revisedListing : Json := .obj [("rev", .str "a1b2c3"), ("flows", labelledListing)]

/-- An engine that is late, then answers a request for the listing with a text, and accepts every
change. -/
def textEngine (text : String) : Behaviour := fun log request =>
  if log.isEmpty then .unreachable
  else if request.method = .get then .answered ⟨200, .whole (utf8Bytes text)⟩
  else .answered ⟨204, .whole []⟩

theorem textEngine_alike (flat wrapped : String) :
    Likeness.OfEngines (EitherForm flat wrapped) (textEngine flat) (textEngine wrapped) := by
  intro log log' request hlogs
  have hempty : log.isEmpty = log'.isEmpty := by cases hlogs <;> rfl
  simp only [textEngine, hempty]
  split
  · exact .same _ _
  · split
    · rename_i hget
      exact .listing hget 200
    · exact .same _ _

/-- The tab is replaced, in whichever form it is listed. -/
theorem forms_indistinguishable_revised :
    Listing.SameNodes labelledListing.compact revisedListing.compact ∧
      Likeness.OfEngines (EitherForm labelledListing.compact revisedListing.compact)
        (textEngine labelledListing.compact) (textEngine revisedListing.compact) ∧
      (tokenClient.deploy labelledFlow).run.CannotTell (textEngine labelledListing.compact)
        (textEngine revisedListing.compact) ∧
      ((tokenClient.deploy labelledFlow).run.record
        (textEngine revisedListing.compact)).1.toOption = some .updated := by
  have hsame : Listing.SameNodes labelledListing.compact revisedListing.compact := by
    have hback : Json.ReadsBack
        (.obj ([("rev", .str "a1b2c3")] ++ ("flows", labelledListing) :: [])) :=
      ⟨by decide, by decide⟩
    exact Listing.sameNodes_of_isWrittenAs hback (by decide) .line .line
  have hengines := textEngine_alike labelledListing.compact revisedListing.compact
  refine ⟨hsame, hengines,
    (forms_indistinguishable hsame hengines tokenClient labelledFlow "sensorA").1, ?_⟩
  simp only [Client.deploy, Client.list, Client.submit,
    send_eq (tokenClient_isSendable.isSendable _ _ _)]
  decide +kernel

/-- An object that lists no nodes, with a number beyond the double-precision range beside them. -/
def overflowingListing : String := "\x7b\"flows\":[],\"x\":1e999\x7d"

set_option maxRecDepth 4000 in
theorem ofText_overflowingListing : Outline.ofText overflowingListing =
    ⟨.obj false [(some "flows", .arr false [] true), (some "x", .unreadable)] true, true⟩ := by
  rfl

/-- **A number that no double holds tells the forms apart**, although it stands beside the nodes:
nothing is deployed by the one, and the other cannot be read. -/
theorem forms_told_apart_by_number :
    Outline.ofText "[]" = ⟨.arr false [] true, true⟩ ∧
      Outline.ofText overflowingListing =
        ⟨.obj false [(some "flows", .arr false [] true), (some "x", .unreadable)] true, true⟩ ∧
      Likeness.OfEngines (EitherForm "[]" overflowingListing) (textEngine "[]")
        (textEngine overflowingListing) ∧
      ((tokenClient.delete "sensorA").run.record (textEngine "[]")).1 = .ok .notDeployed ∧
      ((tokenClient.delete "sensorA").run.record (textEngine overflowingListing)).1 =
        .error .invalidListing ∧
      (¬(tokenClient.delete "sensorA").run.CannotTell (textEngine "[]")
        (textEngine overflowingListing)) ∧
      ∀ url, Client.readListing url ⟨200, .whole (utf8Bytes "[]")⟩ = .ok [] ∧
        Client.readListing url ⟨200, .whole (utf8Bytes overflowingListing)⟩ =
          .error .invalidListing := by
  have hflat : ((tokenClient.delete "sensorA").run.record (textEngine "[]")).1 =
      .ok .notDeployed := by
    simp only [Client.delete, Client.list, send_eq (tokenClient_isSendable.isSendable _ _ _)]
    decide +kernel
  have hwrapped : ((tokenClient.delete "sensorA").run.record
      (textEngine overflowingListing)).1 = .error .invalidListing := by
    simp only [Client.delete, Client.list, send_eq (tokenClient_isSendable.isSendable _ _ _)]
    decide +kernel
  have hempty : Listing.ofText? "[]" = some [] := by rfl
  have hnone : Listing.ofText? overflowingListing = none :=
    Listing.ofText?_eq_none ofText_overflowingListing
      (List.mem_cons_of_mem _ List.mem_cons_self) rfl
  refine ⟨by rfl, ofText_overflowingListing, textEngine_alike _ _, hflat, hwrapped,
    fun hsame => ?_, fun url => ⟨?_, ?_⟩⟩
  · rw [Conversation.CannotTell, hflat, hwrapped] at hsame
    cases hsame.1
  · simp [Client.readListing, Listing.ofBytes?, Text.ofUtf8?_utf8Bytes, hempty]
  · simp [Client.readListing, Listing.ofBytes?, Text.ofUtf8?_utf8Bytes, hnone]

end Engine

end UplinkFlow
