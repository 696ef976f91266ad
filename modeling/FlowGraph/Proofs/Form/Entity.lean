import FlowGraph.Form.Entity
import FlowGraph.Proofs.Form.Net
import Mathlib

/-!
# Entities are read back

The objects of a cluster are read from the document that they are written as. Two kinds are told by
members of the same name on the way: that of an object stands among its own members, and that of the
address of a pod beside the address, one level below. Neither gets in the way of the other, because
what an object keeps back for its content holds the address as it stands
(`Object.decode_encode_objects`).
-/

namespace FlowGraph.Entity

open Json Net

/-! ### What objects consist of -/

/-- A port of a container is read from the document that it is written as. -/
lemma Port.writes_encode (p : Port) : p.encode.Writes reader p := by
  have fields : row.Writes _ (p.port, p.protocol, ()) :=
    .field (Value.writes_u16 p.port) (.field p.protocol.writes_encode .done)
  exact fields.readAs (by decide) rfl

/-- A port of a service is read from the document that it is written as. -/
lemma ServicePort.writes_encode (p : ServicePort) : p.encode.Writes reader p := by
  have fields : row.Writes _ (p.port, p.target, p.protocol, ()) :=
    .field (Value.writes_u16 p.port) (.field (Value.writes_u16 p.target)
      (.field p.protocol.writes_encode .done))
  exact fields.readAs (by decide) rfl

/-- A container is read from the document that it is written as, with all its ports. -/
lemma Container.writes_encode (c : Container) : c.encode.Writes reader c := by
  have fields : row.Writes _ (c.name, c.id, c.ports, ()) :=
    .field (Value.writes_string c.name) (.field (Value.writes_string c.id)
      (.field (Value.writes_map Port.writes_encode c.ports) .done))
  exact fields.readAs (by decide) rfl

/-- The kind of an address stands beside it. -/
lemma PodAddress.writes_encode (a : PodAddress) : a.encode.Writes reader a := by
  have apart : kinds.content ≠ kinds.tag := by decide
  cases a with
  | host a =>
    have known : (Value.string "Host").Writes kinds.tagReader (Reader.address.map host) :=
      Choice.writes_name rfl
    exact Beside.writes apart known (a.writes_encode.map host)
  | pod a =>
    have known : (Value.string "Pod").Writes kinds.tagReader (Reader.address.map pod) :=
      Choice.writes_name rfl
    exact Beside.writes apart known (a.writes_encode.map pod)

/-- A pod is read from the document that it is written as, with all its containers. -/
lemma Pod.writes_encode (p : Pod) : p.encode.Writes reader p := by
  have fields : row.Writes p.members (p.name, p.ns, p.workload, p.address, p.containers, ()) :=
    .field (Value.writes_string p.name) (.field (Value.writes_string p.ns)
      (.field (Value.writes_string p.workload) (.field p.address.writes_encode
        (.field (Value.writes_map Container.writes_encode p.containers) .done))))
  exact fields.readAs (by decide) rfl

/-- A service is read from the document that it is written as, with all its ports and workloads. -/
lemma Service.writes_encode (s : Service) : s.encode.Writes reader s := by
  have fields : row.Writes s.members (s.name, s.ns, s.address, s.ports, s.workloads, ()) :=
    .field (Value.writes_string s.name) (.field (Value.writes_string s.ns)
      (.field s.address.writes_encode (.field (Value.writes_map ServicePort.writes_encode s.ports)
        (.field (Value.writes_map Value.writes_string s.workloads) .done))))
  exact fields.readAs (by decide) rfl

/-! ### How deep objects are -/

variable {n : Nat}

/-- A port of a container takes two levels, for itself and its protocol. -/
lemma Port.fits_encode (p : Port) : p.encode.Fits (some (n + 2)) := by
  apply Value.fits_object
  simp only [List.forall_mem_cons]
  exact ⟨Value.fits_int _, p.protocol.fits_encode n, List.forall_mem_nil _⟩

/-- A port of a service takes two levels, for itself and its protocol. -/
lemma ServicePort.fits_encode (p : ServicePort) : p.encode.Fits (some (n + 2)) := by
  apply Value.fits_object
  simp only [List.forall_mem_cons]
  exact ⟨Value.fits_int _, Value.fits_int _, p.protocol.fits_encode n, List.forall_mem_nil _⟩

/-- A container takes four levels: its ports stand in a list. -/
lemma Container.fits_encode (c : Container) : c.encode.Fits (some (n + 4)) := by
  apply Value.fits_object
  simp only [List.forall_mem_cons]
  exact ⟨Value.fits_string _, Value.fits_string _, Value.fits_map Port.fits_encode _,
    List.forall_mem_nil _⟩

/-- The address of a pod takes one level, with its kind beside it. -/
lemma PodAddress.fits_encode (a : PodAddress) : a.encode.Fits (some (n + 1)) := by
  cases a with
  | host a => rfl
  | pod a => rfl

/-- The members of a pod take five levels: its containers stand in a list. -/
lemma Pod.fits_members (p : Pod) : ∀ m ∈ p.members, m.2.Fits (some (n + 5)) := by
  simp only [members, List.forall_mem_cons]
  exact ⟨Value.fits_string _, Value.fits_string _, Value.fits_string _, p.address.fits_encode,
    Value.fits_map Container.fits_encode _, List.forall_mem_nil _⟩

/-- The members of a service take three levels: its ports stand in a list. -/
lemma Service.fits_members (s : Service) : ∀ m ∈ s.members, m.2.Fits (some (n + 3)) := by
  simp only [members, List.forall_mem_cons]
  exact ⟨Value.fits_string _, Value.fits_string _, Value.fits_string _,
    Value.fits_map ServicePort.fits_encode _, Value.fits_map Value.fits_string _,
    List.forall_mem_nil _⟩

/-! ### Objects -/

namespace Object

/-- The kind of an object stands among its members, none of which has this name. -/
lemma writes_encode (o : Object) : o.encode.Writes reader o := by
  cases o with
  | pod p =>
    have others : ∀ m ∈ p.members, m.1 ≠ "kind" := by simp [Pod.members]
    have known : kinds.variants.lookup "Pod" = some (Pod.reader.map pod) := rfl
    exact Inside.writes known others (p.writes_encode.map pod)
  | service s =>
    have others : ∀ m ∈ s.members, m.1 ≠ "kind" := by simp [Service.members]
    have known : kinds.variants.lookup "Service" = some (Service.reader.map service) := rfl
    exact Inside.writes known others (s.writes_encode.map service)

/-- An object takes six levels at most. -/
lemma fits_encode (o : Object) : o.encode.Fits (some (n + 6)) := by
  cases o with
  | pod p =>
    apply Value.fits_object
    rw [List.forall_mem_cons]
    exact ⟨Value.fits_string _, p.fits_members⟩
  | service s =>
    apply Value.fits_object
    rw [List.forall_mem_cons]
    exact ⟨Value.fits_string _, s.fits_members⟩

/-- The document that objects are written as is not deeper than a text may be, and from every text
that this document is read from, the objects are read. -/
theorem decode_encode_objects (objects : List Object) :
    (Value.array (objects.map encode)).Fits Source.top.room ∧
    (Value.array (objects.map encode)).Writes listReader objects ∧
    ∀ text, decode Reader.value text = .ok (.array (objects.map encode)) →
      decode listReader text = .ok objects := by
  have written := Value.writes_map writes_encode objects
  exact ⟨Value.fits_map fits_encode objects, written, fun text printed => written.decode printed⟩

/-- Names that look like tags, an address of a host that is an IPv4 address in the other version,
and a protocol that goes by its number. -/
def disguisedObjects : List Object :=
  [.pod ⟨"kind", "", "Service", .host (.v6 ⟨#v[0, 0, 0, 0, 0, 0xffff, 0x908, 0x706]⟩),
      [⟨"c", "\"", [⟨80, .tcp⟩]⟩]⟩,
    .pod ⟨"ip", "", "Host", .pod (.v4 ⟨10, 0, 0, 1⟩), []⟩,
    .service ⟨"Pod", "", .v4 ⟨10, 0, 0, 1⟩, [⟨80, 8080, .other 132⟩], ["w"]⟩]

/-- A text of the document, all of it in ASCII. -/
def disguisedText : Bytes := List.map byte <| String.toList <|
  "[\x7b\"kind\":\"Pod\",\"name\":\"kind\",\"ns\":\"\",\"workload\":\"Service\"," ++
    "\"ip\":\x7b\"kind\":\"Host\",\"ip\":\"::ffff:9.8.7.6\"\x7d," ++
    "\"containers\":[\x7b\"name\":\"c\",\"id\":\"\\\"\"," ++
    "\"ports\":[\x7b\"port\":80,\"protocol\":\"TCP\"\x7d]\x7d]\x7d," ++
    "\x7b\"kind\":\"Pod\",\"name\":\"ip\",\"ns\":\"\",\"workload\":\"Host\"," ++
    "\"ip\":\x7b\"kind\":\"Pod\",\"ip\":\"10.0.0.1\"\x7d,\"containers\":[]\x7d," ++
    "\x7b\"kind\":\"Service\",\"name\":\"Pod\",\"ns\":\"\",\"ip\":\"10.0.0.1\"," ++
    "\"ports\":[\x7b\"port\":80,\"target\":8080,\"protocol\":\x7b\"Other\":132\x7d\x7d]," ++
    "\"workloads\":[\"w\"]\x7d]"

set_option maxRecDepth 4096 in
/-- The objects are read back as what they are. -/
theorem decode_encode_objects_disguised :
    decode Reader.value disguisedText = .ok (.array (disguisedObjects.map encode)) ∧
    decode listReader disguisedText = .ok disguisedObjects := by
  -- evaluating a text takes equations of byte arrays that only the whole of Mathlib brings in
  have printed : decode Reader.value disguisedText =
      .ok (.array (disguisedObjects.map encode)) := by
    cbv
  exact ⟨printed, (decode_encode_objects disguisedObjects).2.2 disguisedText printed⟩

end Object

end FlowGraph.Entity
