import LongPoll.Proofs.Agent.Replies
import LongPoll.Proofs.Json.Tolerance

/-!
Entries of every kind are read tolerantly.

Each kind of entry has a layout: which of its fields have to be there, which may be missing, and
which may be null as well. A reader asks of each field what its own reader yields, so that the
layout governs it follows field by field. Alike bodies then have the same entries, and a body that
the layout refuses has none, however many good entries stand beside the bad one.
-/

namespace LongPoll

open LongPoll.Json LongPoll.Text

/-! ### Entries of the key/value store -/

namespace Kv.Entry

def layout : Layout :=
  .record
    [("Key", .required, .plain), ("Value", .nullable, .plain), ("CreateIndex", .defaulted, .plain),
      ("ModifyIndex", .defaulted, .plain), ("LockIndex", .defaulted, .plain),
      ("Flags", .defaulted, .plain), ("Session", .nullable, .plain)]

/-- What an entry asks of the fields that it is read from. -/
def asks (e : Kv.Entry) : List (Option Json → Prop) :=
  [fun slot => required? text? slot = some e.key,
    fun slot => defaulted? none (nullable? none fun j => (bytes? j).map some) slot = some e.value,
    fun slot => defaulted? 0 counter? slot = some e.createIndex,
    fun slot => defaulted? 0 counter? slot = some e.modifyIndex,
    fun slot => defaulted? 0 counter? slot = some e.lockIndex,
    fun slot => defaulted? 0 counter? slot = some e.flags,
    fun slot => defaulted? none (nullable? none fun j => (text? j).map some) slot = some e.session]

theorem ofJson?_eq_some_iff : ∀ (j : Json) (e : Kv.Entry), ofJson? j = some e ↔
    ∃ slots, j.slots? fieldNames = some slots ∧
      List.Forall₂ (fun Asks slot => Asks slot) e.asks slots :=
  eq_some_iff_of_slots (fun _ => rfl) fun
    | [_, _, _, _, _, _, _], e, _ => by
      cases e
      simp [asks, Option.bind_eq_some_iff]

theorem governs_entry : layout.Governs ofJson? := by
  refine Layout.governs_record (by decide) ofJson?_eq_some_iff fun e => ?_
  have hText := Layout.governs_plain text?
  have hCounter := (Layout.governs_plain counter?).defaulted 0
  exact .cons (hText.required rfl _) (.cons ((Layout.governs_plain _).optional none _)
    (.cons (hCounter _) (.cons (hCounter _) (.cons (hCounter _) (.cons (hCounter _)
    (.cons ((Layout.governs_plain _).optional none _) .nil))))))

end Kv.Entry

/-! ### Health data -/

namespace Health

namespace Check

def layout : Layout :=
  .record
    [("Node", .required, .plain), ("CheckID", .required, .plain), ("Name", .required, .plain),
      ("Status", .required, .plain), ("Notes", .nullable, .plain), ("Output", .nullable, .plain),
      ("ServiceID", .nullable, .plain), ("ServiceName", .nullable, .plain),
      ("ServiceTags", .nullable, .list .plain)]

/-- What a check asks of the fields that it is read from. -/
def asks (c : Check) : List (Option Json → Prop) :=
  [fun slot => required? text? slot = some c.node,
    fun slot => required? text? slot = some c.checkId,
    fun slot => required? text? slot = some c.name,
    fun slot => required? text? slot = some c.status,
    fun slot => optionalText? slot = some c.notes,
    fun slot => optionalText? slot = some c.output,
    fun slot => optionalText? slot = some c.serviceId,
    fun slot => optionalText? slot = some c.serviceName,
    fun slot => optionalList? text? slot = some c.serviceTags]

theorem ofJson?_eq_some_iff : ∀ (j : Json) (c : Check), ofJson? j = some c ↔
    ∃ slots, j.slots? fieldNames = some slots ∧
      List.Forall₂ (fun Asks slot => Asks slot) c.asks slots :=
  eq_some_iff_of_slots (fun _ => rfl) fun
    | [_, _, _, _, _, _, _, _, _], c, _ => by
      cases c
      simp [asks, Option.bind_eq_some_iff]

theorem governs_check : layout.Governs ofJson? := by
  refine Layout.governs_record (by decide) ofJson?_eq_some_iff fun c => ?_
  have hText := Layout.governs_plain text?
  have hRequired := hText.required rfl
  have hOptional := hText.optional ""
  exact .cons (hRequired _) (.cons (hRequired _) (.cons (hRequired _) (.cons (hRequired _)
    (.cons (hOptional _) (.cons (hOptional _) (.cons (hOptional _) (.cons (hOptional _)
    (.cons (hText.list.optional [] _) .nil))))))))

end Check

namespace Node

def layout : Layout :=
  .record
    [("Node", .required, .plain), ("Address", .nullable, .plain), ("Datacenter", .nullable, .plain)]

/-- What a node asks of the fields that it is read from. -/
def asks (n : Node) : List (Option Json → Prop) :=
  [fun slot => required? text? slot = some n.name,
    fun slot => optionalText? slot = some n.address,
    fun slot =>
      defaulted? none (nullable? none fun j => (text? j).map some) slot = some n.datacenter]

theorem ofJson?_eq_some_iff : ∀ (j : Json) (n : Node), ofJson? j = some n ↔
    ∃ slots, j.slots? fieldNames = some slots ∧
      List.Forall₂ (fun Asks slot => Asks slot) n.asks slots :=
  eq_some_iff_of_slots (fun _ => rfl) fun
    | [_, _, _], n, _ => by
      cases n
      simp [asks, Option.bind_eq_some_iff]

theorem governs_node : layout.Governs ofJson? := by
  refine Layout.governs_record (by decide) ofJson?_eq_some_iff fun n => ?_
  have hText := Layout.governs_plain text?
  exact .cons (hText.required rfl _) (.cons (hText.optional "" _)
    (.cons ((Layout.governs_plain _).optional none _) .nil))

end Node

namespace Service

def layout : Layout :=
  .record
    [("ID", .required, .plain), ("Service", .required, .plain), ("Tags", .nullable, .list .plain),
      ("Address", .nullable, .plain), ("Port", .defaulted, .plain)]

/-- What a service asks of the fields that it is read from. -/
def asks (s : Service) : List (Option Json → Prop) :=
  [fun slot => required? text? slot = some s.id,
    fun slot => required? text? slot = some s.name,
    fun slot => optionalList? text? slot = some s.tags,
    fun slot => optionalText? slot = some s.address,
    fun slot => defaulted? 0 port? slot = some s.port]

theorem ofJson?_eq_some_iff : ∀ (j : Json) (s : Service), ofJson? j = some s ↔
    ∃ slots, j.slots? fieldNames = some slots ∧
      List.Forall₂ (fun Asks slot => Asks slot) s.asks slots :=
  eq_some_iff_of_slots (fun _ => rfl) fun
    | [_, _, _, _, _], s, _ => by
      cases s
      simp [asks, Option.bind_eq_some_iff]

theorem governs_service : layout.Governs ofJson? := by
  refine Layout.governs_record (by decide) ofJson?_eq_some_iff fun s => ?_
  have hText := Layout.governs_plain text?
  exact .cons (hText.required rfl _) (.cons (hText.required rfl _)
    (.cons (hText.list.optional [] _) (.cons (hText.optional "" _)
    (.cons ((Layout.governs_plain port?).defaulted 0 _) .nil))))

end Service

namespace Instance

def layout : Layout :=
  .record
    [("Node", .required, Node.layout), ("Service", .required, Service.layout),
      ("Checks", .nullable, .list Check.layout)]

/-- What an instance asks of the fields that it is read from. -/
def asks (i : Instance) : List (Option Json → Prop) :=
  [fun slot => required? Node.ofJson? slot = some i.node,
    fun slot => required? Service.ofJson? slot = some i.service,
    fun slot => optionalList? Check.ofJson? slot = some i.checks]

theorem ofJson?_eq_some_iff : ∀ (j : Json) (i : Instance), ofJson? j = some i ↔
    ∃ slots, j.slots? fieldNames = some slots ∧
      List.Forall₂ (fun Asks slot => Asks slot) i.asks slots :=
  eq_some_iff_of_slots (fun _ => rfl) fun
    | [_, _, _], i, _ => by
      cases i
      simp [asks, Option.bind_eq_some_iff]

theorem governs_instance : layout.Governs ofJson? := by
  refine Layout.governs_record (by decide) ofJson?_eq_some_iff fun i => ?_
  exact .cons (Node.governs_node.required rfl _) (.cons (Service.governs_service.required rfl _)
    (.cons (Check.governs_check.list.optional [] _) .nil))

end Instance

end Health

/-! ### Bodies -/

namespace Agent

section

variable {V : Type} {layout : Layout} {read : Json → Option V}

theorem lists_iff_of_parse {body : List UInt8} {j : Json} {list : List V}
    (hParse : parse? body = some j) :
    Lists read body list ↔ nullable? [] (list? read) j = some list := by
  constructor
  · rintro (hBlank | hNull | ⟨hArray, hItems⟩)
    · cases (parse?_of_blank hBlank).symm.trans hParse
    · cases hNull.symm.trans hParse
      rfl
    · cases hArray.symm.trans hParse
      exact mapM_eq_some_iff.2 hItems
  · intro hRead
    cases j with
    | null =>
        cases hRead
        exact .null hParse
    | array items => exact .array hParse (mapM_eq_some_iff.1 hRead)
    | _ => cases hRead

theorem Reply.Holds.of_lists {lenient : Bool} {r : Reply} {body : List UInt8} {list : List V}
    (h : r.Holds read lenient list) (hLists : Lists read r.body list → Lists read body list) :
    Reply.Holds read lenient { r with body := body } list := by
  rcases h with ⟨hStatus, hLenient⟩ | ⟨hStatus, hBody⟩
  · exact .missing hStatus hLenient
  · exact .listed hStatus (hLists hBody)

/-- The layout of an entry says which bodies have the same entries and which are refused. -/
structure ReadsBy (layout : Layout) (read : Json → Option V) : Prop where
  /-- A text of an alike tree has the same entries. -/
  alike (lenient : Bool) {r : Reply} {body : List UInt8} {j j' : Json} {list : List V}
    (hParse : parse? r.body = some j) (hAlike : (Layout.list layout).Alike j j')
    (hText : j'.IsText body) :
    r.entries read lenient = .ok list ↔
      Reply.entries read lenient { r with body := body } = .ok list
  /-- Anything that the layout refuses, in whichever entry, spoils the body. -/
  refused (lenient : Bool) {r : Reply} {j : Json} (hStatus : r.Succeeds)
    (hParse : parse? r.body = some j) (hRefuses : (Layout.list layout).Refuses j) :
    r.entries read lenient =
      .error (.undecodable (.body "the body is not a list of such entries"))

theorem readsBy_of_governs (h : layout.Governs read) : ReadsBy layout read where
  alike lenient r body j j' list hParse hAlike hText := by
    have hSame : Lists read r.body list ↔ Lists read body list := by
      rw [lists_iff_of_parse hParse, lists_iff_of_parse (parse?_of_isText hText),
        (h.list.nullable []).alike hAlike]
    rw [entries_eq_ok_iff, entries_eq_ok_iff]
    exact ⟨fun hHolds => hHolds.of_lists hSame.1, fun hHolds => hHolds.of_lists hSame.2⟩
  refused lenient r j hStatus hParse hRefuses := by
    refine entries_eq_error_iff.2 (Or.inr ⟨hStatus, fun list hLists => ?_, rfl⟩)
    have hNone := (h.list.nullable []).refuses hRefuses
    cases hNone.symm.trans ((lists_iff_of_parse hParse).1 hLists)

end

/-- Entries of the store, checks and instances are all read with the tolerance of their layouts. -/
theorem entries_are_read_tolerantly :
    ReadsBy Kv.Entry.layout Kv.Entry.ofJson? ∧
      ReadsBy Health.Check.layout Health.Check.ofJson? ∧
      ReadsBy Health.Instance.layout Health.Instance.ofJson? :=
  ⟨readsBy_of_governs Kv.Entry.governs_entry, readsBy_of_governs Health.Check.governs_check,
    readsBy_of_governs Health.Instance.governs_instance⟩

/-- A session that is null and a member that nobody knows change nothing, and a key that is null
spoils the good entry before it. -/
theorem entries_are_read_tolerantly_of_key :
    Reply.entries Kv.Entry.ofJson? false ⟨200, [], render (.array [.object
      [(escape "Session", .null), (escape "Meta", .array [.object []]),
        (escape "Key", printText "a")]])⟩ = .ok [⟨"a", none, 0, 0, 0, 0, none⟩] ∧
    Reply.entries Kv.Entry.ofJson? false ⟨200, [], render (.array
      [.object [(escape "Key", printText "a")], .object [(escape "Key", .null)]])⟩ =
      .error (.undecodable (.body "the body is not a list of such entries")) := by
  obtain ⟨hStore, -, -⟩ := entries_are_read_tolerantly
  have hName (s : String) : textOfRaw? (escape s) = some s := (spells_escape s).textOfRaw?
  have hRaw (s : String) : IsRaw (escape s) := (spells_escape s).isRaw
  have hText (s : String) : (printText s).IsLegal := prints_text.legal s
  have hMeta : Kv.Entry.layout.Varies (.object [(escape "Key", printText "a")])
      (.object [(escape "Meta", .array [.object []]), (escape "Key", printText "a")]) :=
    .added (hName "Meta") (by decide)
  have hSession : Kv.Entry.layout.Varies
      (.object [(escape "Meta", .array [.object []]), (escape "Key", printText "a")])
      (.object [(escape "Session", .null), (escape "Meta", .array [.object []]),
        (escape "Key", printText "a")]) :=
    .nulled (by simp : ("Session", Presence.nullable, Layout.plain) ∈ _) (hName "Session")
      (by simp [hName])
  have hAlike : (Layout.list Kv.Entry.layout).Alike (.array [_]) (.array [_]) :=
    .trans _ _ _ (.rel _ _ (@Layout.Varies.item _ [] [] _ _ hMeta))
      (.rel _ _ (@Layout.Varies.item _ [] [] _ _ hSession))
  have hFull : (array [object [(escape "Session", null), (escape "Meta", array [object []]),
      (escape "Key", printText "a")]]).IsLegal :=
    isLegal_array (List.forall_mem_singleton.2 (isLegal_object (by
      simp [hRaw, hText, isLegal_null, isLegal_array, isLegal_object])))
  have hBare : Reply.entries Kv.Entry.ofJson? false
      ⟨200, [], Utf8.encodeString "[\x7b\"Key\":\"a\"\x7d]"⟩ =
        .ok [⟨"a", none, 0, 0, 0, 0, none⟩] := by
    decide +kernel
  constructor
  · exact (hStore.alike false rfl hAlike (isText_render hFull)).1 hBare
  · refine hStore.refused (r := ⟨200, [], _⟩) false ⟨Nat.le_refl _, by decide⟩
      (parse?_of_isText (isText_render (isLegal_array ?_)))
      (.item (List.mem_cons_of_mem _ List.mem_cons_self)
        (.null List.mem_cons_self (hName "Key") List.mem_cons_self))
    simp [isLegal_object, isLegal_null, hRaw, hText]

/-- The name of a member is read even if nobody asks for the member, so it has to be a text. -/
theorem illegible_name_is_not_skipped :
    parse? (Utf8.encodeString "[\x7b\"Key\":\"a\"\x7d]") =
      some (.array [.object [(escape "Key", printText "a")]]) ∧
    parse? (Utf8.encodeString "[\x7b\"Key\":\"a\",\"\\udead\":1\x7d]") =
      some (.array [.object [(escape "Key", printText "a"),
        (Utf8.encodeString "\\udead", .number [0x31])]]) ∧
    (∀ name ∈ Kv.Entry.fieldNames, textOfRaw? (Utf8.encodeString "\\udead") ≠ some name) ∧
    Reply.entries Kv.Entry.ofJson? false
      ⟨200, [], Utf8.encodeString "[\x7b\"Key\":\"a\"\x7d]"⟩ =
        .ok [⟨"a", none, 0, 0, 0, 0, none⟩] ∧
    Reply.entries Kv.Entry.ofJson? false
      ⟨200, [], Utf8.encodeString "[\x7b\"Key\":\"a\",\"\\udead\":1\x7d]"⟩ =
        .error (.undecodable (.body "the body is not a list of such entries")) := by
  exact ⟨rfl, rfl, by decide +kernel, by decide +kernel, by decide +kernel⟩

end Agent

end LongPoll
