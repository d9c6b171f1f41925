import LongPoll.Proofs.Agent.Replies
import LongPoll.Proofs.Json.Records
import LongPoll.Proofs.Text.Base64

/-!
What an agent writes, a watch reads.

Each kind of entry is related to the trees that stand for it. The names of the members and what may
be left out are the agent's; the order of members, further members, white space and the spelling of
texts are left open. Of every list of entries there is such a body, and every such body of a
successful answer is read as the list.
-/

namespace LongPoll

open LongPoll.Json LongPoll.Text

/-! ### Entries of the key/value store -/

namespace Kv.Entry

/-- Bytes are a text in Base64. -/
def WritesBytes (bytes : List UInt8) : Json → Prop :=
  WritesText (String.ofList (Base64.encode bytes))

def printBytes (bytes : List UInt8) : Json := printText (String.ofList (Base64.encode bytes))

/-- Only the key has to be there. -/
inductive Writes (e : Kv.Entry) : Json → Prop where
  | record {key value createIndex modifyIndex lockIndex flags session : Option Json} {j : Json}
      (hKey : Required WritesText e.key key)
      (hValue : Nullable none (WritesSome WritesBytes) e.value value)
      (hCreateIndex : Defaulted 0 (fun n => WritesNumber n.toNat) e.createIndex createIndex)
      (hModifyIndex : Defaulted 0 (fun n => WritesNumber n.toNat) e.modifyIndex modifyIndex)
      (hLockIndex : Defaulted 0 (fun n => WritesNumber n.toNat) e.lockIndex lockIndex)
      (hFlags : Defaulted 0 (fun n => WritesNumber n.toNat) e.flags flags)
      (hSession : Nullable none (WritesSome WritesText) e.session session)
      (hRecord : WritesRecord
        [("Key", key), ("Value", value), ("CreateIndex", createIndex), ("ModifyIndex", modifyIndex),
          ("LockIndex", lockIndex), ("Flags", flags), ("Session", session)] j) : Writes e j

theorem recovers_bytes : Recovers WritesBytes bytes? := by
  intro bytes j hWrites
  have hText : j.text? = some (String.ofList (Base64.encode bytes)) := recovers_text _ j hWrites
  simp [bytes?, hText, Base64.decode?_encode]

theorem recovers_entry : Recovers Writes ofJson? := by
  rintro e j ⟨hKey, hValue, hCreateIndex, hModifyIndex, hLockIndex, hFlags, hSession, hRecord⟩
  have hSlots : j.slots? fieldNames = _ := slots?_of_writes rfl (by decide) hRecord
  simp [ofJson?, hSlots, recovers_text.required _ _ hKey,
    recovers_bytes.option.nullable rfl none _ _ hValue,
    recovers_counter.defaulted 0 _ _ hCreateIndex, recovers_counter.defaulted 0 _ _ hModifyIndex,
    recovers_counter.defaulted 0 _ _ hLockIndex, recovers_counter.defaulted 0 _ _ hFlags,
    recovers_text.option.nullable rfl none _ _ hSession]

/-- An entry without a value has null for it, and one that nobody holds has no session. -/
def print (e : Kv.Entry) : Json :=
  printRecord
    [("Key", some (printText e.key)), ("Value", some (e.value.elim .null printBytes)),
      ("CreateIndex", some (printNumber e.createIndex.toNat)),
      ("ModifyIndex", some (printNumber e.modifyIndex.toNat)),
      ("LockIndex", some (printNumber e.lockIndex.toNat)),
      ("Flags", some (printNumber e.flags.toNat)), ("Session", e.session.map printText)]

theorem prints_bytes : Prints printBytes WritesBytes where
  writes _ := prints_text.writes _
  legal _ := prints_text.legal _

theorem prints_entry : Prints print Writes where
  writes e := by
    refine .record ⟨prints_text.writes _⟩ ?_ (.given .digits) (.given .digits) (.given .digits)
      (.given .digits) ?_ (writes_printRecord _)
    · cases hValue : e.value with
      | none => exact .null rfl
      | some bytes => exact .given ⟨bytes, rfl, prints_bytes.writes bytes⟩
    · cases hSession : e.session with
      | none => exact .missing rfl
      | some id => exact .given ⟨id, rfl, prints_text.writes id⟩
  legal e := by
    have hValue : (e.value.elim .null printBytes).IsLegal := by
      cases e.value with
      | none => exact isLegal_null
      | some bytes => exact prints_bytes.legal bytes
    refine isLegal_printRecord ?_
    simp [prints_text.legal, prints_number.legal, hValue]

end Kv.Entry

/-! ### Health data -/

namespace Health

/-- Only the first four members have to be there. -/
inductive Check.Writes (c : Check) : Json → Prop where
  | record {node checkId name status notes output serviceId serviceName serviceTags : Option Json}
      {j : Json} (hNode : Required WritesText c.node node)
      (hCheckId : Required WritesText c.checkId checkId) (hName : Required WritesText c.name name)
      (hStatus : Required WritesText c.status status)
      (hNotes : Nullable "" WritesText c.notes notes)
      (hOutput : Nullable "" WritesText c.output output)
      (hServiceId : Nullable "" WritesText c.serviceId serviceId)
      (hServiceName : Nullable "" WritesText c.serviceName serviceName)
      (hServiceTags : Nullable [] (WritesList WritesText) c.serviceTags serviceTags)
      (hRecord : WritesRecord
        [("Node", node), ("CheckID", checkId), ("Name", name), ("Status", status), ("Notes", notes),
          ("Output", output), ("ServiceID", serviceId), ("ServiceName", serviceName),
          ("ServiceTags", serviceTags)] j) : c.Writes j

inductive Node.Writes (n : Node) : Json → Prop where
  | record {name address datacenter : Option Json} {j : Json}
      (hName : Required WritesText n.name name)
      (hAddress : Nullable "" WritesText n.address address)
      (hDatacenter : Nullable none (WritesSome WritesText) n.datacenter datacenter)
      (hRecord : WritesRecord
        [("Node", name), ("Address", address), ("Datacenter", datacenter)] j) : n.Writes j

inductive Service.Writes (s : Service) : Json → Prop where
  | record {id name tags address port : Option Json} {j : Json}
      (hId : Required WritesText s.id id) (hName : Required WritesText s.name name)
      (hTags : Nullable [] (WritesList WritesText) s.tags tags)
      (hAddress : Nullable "" WritesText s.address address)
      (hPort : Defaulted 0 (fun n => WritesNumber n.toNat) s.port port)
      (hRecord : WritesRecord
        [("ID", id), ("Service", name), ("Tags", tags), ("Address", address), ("Port", port)] j) :
      s.Writes j

inductive Instance.Writes (i : Instance) : Json → Prop where
  | record {node service checks : Option Json} {j : Json}
      (hNode : Required Node.Writes i.node node)
      (hService : Required Service.Writes i.service service)
      (hChecks : Nullable [] (WritesList Check.Writes) i.checks checks)
      (hRecord : WritesRecord [("Node", node), ("Service", service), ("Checks", checks)] j) :
      i.Writes j

theorem recovers_check : Recovers Check.Writes Check.ofJson? := by
  rintro c j ⟨hNode, hCheckId, hName, hStatus, hNotes, hOutput, hServiceId, hServiceName,
    hServiceTags, hRecord⟩
  have hSlots : j.slots? Check.fieldNames = _ := slots?_of_writes rfl (by decide) hRecord
  simp [Check.ofJson?, hSlots, optionalText?, optionalList?, recovers_text.required _ _ hNode,
    recovers_text.required _ _ hCheckId, recovers_text.required _ _ hName,
    recovers_text.required _ _ hStatus, recovers_text.nullable rfl "" _ _ hNotes,
    recovers_text.nullable rfl "" _ _ hOutput, recovers_text.nullable rfl "" _ _ hServiceId,
    recovers_text.nullable rfl "" _ _ hServiceName,
    recovers_text.list.nullable rfl [] _ _ hServiceTags]

theorem recovers_node : Recovers Node.Writes Node.ofJson? := by
  rintro n j ⟨hName, hAddress, hDatacenter, hRecord⟩
  have hSlots : j.slots? Node.fieldNames = _ := slots?_of_writes rfl (by decide) hRecord
  simp [Node.ofJson?, hSlots, optionalText?, recovers_text.required _ _ hName,
    recovers_text.nullable rfl "" _ _ hAddress,
    recovers_text.option.nullable rfl none _ _ hDatacenter]

theorem recovers_service : Recovers Service.Writes Service.ofJson? := by
  rintro s j ⟨hId, hName, hTags, hAddress, hPort, hRecord⟩
  have hSlots : j.slots? Service.fieldNames = _ := slots?_of_writes rfl (by decide) hRecord
  simp [Service.ofJson?, hSlots, optionalText?, optionalList?, recovers_text.required _ _ hId,
    recovers_text.required _ _ hName, recovers_text.list.nullable rfl [] _ _ hTags,
    recovers_text.nullable rfl "" _ _ hAddress, recovers_port.defaulted 0 _ _ hPort]

theorem recovers_instance : Recovers Instance.Writes Instance.ofJson? := by
  rintro i j ⟨hNode, hService, hChecks, hRecord⟩
  have hSlots : j.slots? Instance.fieldNames = _ := slots?_of_writes rfl (by decide) hRecord
  simp [Instance.ofJson?, hSlots, optionalList?, recovers_node.required _ _ hNode,
    recovers_service.required _ _ hService, recovers_check.list.nullable rfl [] _ _ hChecks]

def Check.print (c : Check) : Json :=
  printRecord
    [("Node", some (printText c.node)), ("CheckID", some (printText c.checkId)),
      ("Name", some (printText c.name)), ("Status", some (printText c.status)),
      ("Notes", some (printText c.notes)), ("Output", some (printText c.output)),
      ("ServiceID", some (printText c.serviceId)), ("ServiceName", some (printText c.serviceName)),
      ("ServiceTags", some (printList printText c.serviceTags))]

def Node.print (n : Node) : Json :=
  printRecord
    [("Node", some (printText n.name)), ("Address", some (printText n.address)),
      ("Datacenter", n.datacenter.map printText)]

def Service.print (s : Service) : Json :=
  printRecord
    [("ID", some (printText s.id)), ("Service", some (printText s.name)),
      ("Tags", some (printList printText s.tags)), ("Address", some (printText s.address)),
      ("Port", some (printNumber s.port.toNat))]

def Instance.print (i : Instance) : Json :=
  printRecord
    [("Node", some i.node.print), ("Service", some i.service.print),
      ("Checks", some (printList Check.print i.checks))]

theorem prints_check : Prints Check.print Check.Writes where
  writes c := by
    have hText (s : String) : WritesText s (printText s) := prints_text.writes s
    exact .record ⟨hText _⟩ ⟨hText _⟩ ⟨hText _⟩ ⟨hText _⟩ (.given (hText _)) (.given (hText _))
      (.given (hText _)) (.given (hText _)) (.given (prints_text.list.writes _))
      (writes_printRecord _)
  legal c := by
    refine isLegal_printRecord ?_
    simp [prints_text.legal, prints_text.list.legal]

theorem prints_node : Prints Node.print Node.Writes where
  writes n := by
    refine .record ⟨prints_text.writes _⟩ (.given (prints_text.writes _)) ?_ (writes_printRecord _)
    cases hDatacenter : n.datacenter with
    | none => exact .missing rfl
    | some name => exact .given ⟨name, rfl, prints_text.writes name⟩
  legal n := by
    refine isLegal_printRecord ?_
    simp [prints_text.legal]

theorem prints_service : Prints Service.print Service.Writes where
  writes s := .record ⟨prints_text.writes _⟩ ⟨prints_text.writes _⟩
    (.given (prints_text.list.writes _)) (.given (prints_text.writes _)) (.given .digits)
    (writes_printRecord _)
  legal s := by
    refine isLegal_printRecord ?_
    simp [prints_text.legal, prints_text.list.legal, prints_number.legal]

theorem prints_instance : Prints Instance.print Instance.Writes where
  writes i := .record ⟨prints_node.writes _⟩ ⟨prints_service.writes _⟩
    (.given (prints_check.list.writes _)) (writes_printRecord _)
  legal i := by
    refine isLegal_printRecord ?_
    simp [prints_node.legal, prints_service.legal, prints_check.list.legal]

end Health

/-! ### Bodies -/

namespace Agent

section

variable {V : Type}

/-- The body is a text of an array with these entries. -/
def Encodes (writes : V → Json → Prop) (list : List V) (body : List UInt8) : Prop :=
  ∃ j, WritesList writes list j ∧ j.IsText body

/-- The text of the array without any white space. -/
def encode (print : V → Json) (list : List V) : List UInt8 := (printList print list).render

theorem encodes_encode {print : V → Json} {writes : V → Json → Prop} (h : Prints print writes)
    (list : List V) : Encodes writes list (encode print list) :=
  ⟨printList print list, h.list.writes list, isText_render (h.list.legal list)⟩

example : encode Kv.Entry.print [⟨"a\"ß", some [255], 1, 20, 0, 7, none⟩] =
    Utf8.encodeString ("[\x7b\"Key\":\"a\\\"ß\",\"Value\":\"/w==\",\"CreateIndex\":1," ++
      "\"ModifyIndex\":20,\"LockIndex\":0,\"Flags\":7\x7d]") := by
  cbv

theorem entries_of_encodes {writes : V → Json → Prop} {read : Json → Option V}
    (h : Recovers writes read) (lenient : Bool) {r : Reply} {list : List V} (hStatus : r.Succeeds)
    (hBody : Encodes writes list r.body) : r.entries read lenient = .ok list := by
  obtain ⟨j, ⟨hItems⟩, hText⟩ := hBody
  have hRead := hItems.flip.imp fun item entry hItem => h entry item hItem
  exact entries_eq_ok_iff.2 (.listed hStatus (.array (parse?_of_isText hText) hRead))

end

/-- Every list of entries of each kind has an encoding, and a successful answer with any encoding of
a list has exactly this list. -/
theorem encodings_are_recovered (lenient : Bool) (status : Nat) (headers : List Header)
    (hStatus : 200 ≤ status ∧ status < 300) :
    (∀ list, Encodes Kv.Entry.Writes list (encode Kv.Entry.print list) ∧
      ∀ body, Encodes Kv.Entry.Writes list body →
        Reply.entries Kv.Entry.ofJson? lenient ⟨status, headers, body⟩ = .ok list) ∧
    (∀ list, Encodes Health.Check.Writes list (encode Health.Check.print list) ∧
      ∀ body, Encodes Health.Check.Writes list body →
        Reply.entries Health.Check.ofJson? lenient ⟨status, headers, body⟩ = .ok list) ∧
    (∀ list, Encodes Health.Instance.Writes list (encode Health.Instance.print list) ∧
      ∀ body, Encodes Health.Instance.Writes list body →
        Reply.entries Health.Instance.ofJson? lenient ⟨status, headers, body⟩ = .ok list) := by
  refine ⟨fun list => ⟨encodes_encode Kv.Entry.prints_entry list, fun body hBody => ?_⟩,
    fun list => ⟨encodes_encode Health.prints_check list, fun body hBody => ?_⟩,
    fun list => ⟨encodes_encode Health.prints_instance list, fun body hBody => ?_⟩⟩
  · exact entries_of_encodes Kv.Entry.recovers_entry lenient hStatus hBody
  · exact entries_of_encodes Health.recovers_check lenient hStatus hBody
  · exact entries_of_encodes Health.recovers_instance lenient hStatus hBody

theorem encodings_are_recovered_of_created :
    (200 ≤ 201 ∧ 201 < 300) ∧
    Reply.entries Kv.Entry.ofJson? false
      ⟨201, [], encode Kv.Entry.print
        [⟨"größe/\"x\"", some [0, 255], 1, 18446744073709551615, 0, 42, none⟩,
          ⟨"größe/", none, 2, 3, 0, 0, some "holder"⟩]⟩ =
      .ok [⟨"größe/\"x\"", some [0, 255], 1, 18446744073709551615, 0, 42, none⟩,
          ⟨"größe/", none, 2, 3, 0, 0, some "holder"⟩] ∧
    Reply.entries Health.Instance.ofJson? false
      ⟨201, [], encode Health.Instance.print
        [⟨⟨"n1", "10.0.0.1", none⟩, ⟨"web1", "web", ["a\nb"], "", 65535⟩,
          [⟨"n1", "c", "Check", "passing", "", "ok\t😀", "web1", "web", []⟩]⟩]⟩ =
      .ok [⟨⟨"n1", "10.0.0.1", none⟩, ⟨"web1", "web", ["a\nb"], "", 65535⟩,
          [⟨"n1", "c", "Check", "passing", "", "ok\t😀", "web1", "web", []⟩]⟩] := by
  obtain ⟨hEntries, -, hInstances⟩ := encodings_are_recovered false 201 [] (by decide)
  exact ⟨by decide, (hEntries _).2 _ (hEntries _).1, (hInstances _).2 _ (hInstances _).1⟩

end Agent

end LongPoll
