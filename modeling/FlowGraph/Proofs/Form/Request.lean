import FlowGraph.Proofs.Form.Batch
import FlowGraph.Proofs.Form.Net

/-!
# Requests are read back

The document that a request is written as is never too deep, and whatever text it is read from, the
request is read from this text (`Request.decode_encode`). For the observations in a batch this is
not plain, because a part that cannot be read counts as missing and an observation that cannot be
read is left out, both without an error: each part has to be written in the shape in which it is
looked for (`Observation.ofValue_encode`).
-/

namespace FlowGraph

open Json Net

namespace Json.Value

variable {α : Type} {read : Reader α} {a : α} {v : Value}

/-- What a settled document writes is read from it. -/
lemma Writes.as? (w : v.Writes read a) (plain : v.settled = v) : v.as? read = some a := by
  rw [Value.as?, plain, w .document (strict_draft v)]
  rfl

end Json.Value

namespace Traffic

/-- A part that may be missing is read from what it is written as. -/
lemma as?_encodeOption {α : Type} {read : Reader α} {encode : α → Value}
    (writes : ∀ a, (encode a).Writes read a) (plain : ∀ a, (encode a).settled = encode a)
    (null : Value.null.as? read = none) (part : Option α) :
    (encodeOption encode part).as? read = part := by
  cases part with
  | none => exact null
  | some a => exact (writes a).as? (plain a)

/-- A part that may be missing takes no more levels than the part itself. -/
lemma fits_encodeOption {α : Type} {encode : α → Value} {room : Room}
    (fits : ∀ a, (encode a).Fits room) (part : Option α) :
    (encodeOption encode part).Fits room := by
  cases part with
  | none => rfl
  | some a => exact fits a

namespace Role

/-- A role is read from its name. -/
lemma writes_encode (r : Role) : r.encode.Writes reader r := by
  cases r with
  | client => exact Choice.writes_name rfl
  | server => exact Choice.writes_name rfl
  | unknown => exact Choice.writes_name rfl

end Role

namespace Observation

/-- An observation is read from the document that it is written as, part by part. -/
lemma ofValue_encode (o : Observation) : ofValue o.encode = o := by
  have container : o.encode.part? "container_id" 0 = some (encodeOption .string o.container) := rfl
  have localAddress : o.encode.part? "local_address" 1 =
      some (encodeOption Address.encode o.localAddress) := rfl
  have remote : o.encode.part? "remote_address" 2 =
      some (encodeOption SocketAddress.encode o.remote) := rfl
  have protocol : o.encode.part? "protocol" 3 =
      some (encodeOption Protocol.encode o.protocol) := rfl
  have role : o.encode.part? "role" 4 = some (encodeOption Role.encode o.role) := rfl
  have closeTime : o.encode.part? "close_timestamp" 5 =
      some (encodeOption Micros.encode o.closeTime) := rfl
  simp only [ofValue, container, localAddress, remote, protocol, role, closeTime, Option.bind_some]
  rw [as?_encodeOption Value.writes_string (fun _ => rfl) rfl,
    as?_encodeOption Address.writes_encode (fun _ => rfl) rfl,
    as?_encodeOption SocketAddress.writes_encode (fun _ => rfl) rfl,
    as?_encodeOption Protocol.writes_encode Protocol.settled_encode rfl,
    as?_encodeOption Role.writes_encode (fun _ => rfl) rfl,
    as?_encodeOption Micros.writes_encode (fun _ => rfl) rfl]

/-- Whatever observation is written, trying its document gives the observation. -/
lemma writes_attempt (o : Observation) : o.encode.Writes attempt (.ok o) := by
  intro src fits
  have whole : Reader.value src o.encode.draft = .ok o.encode := Reader.value_eq_ok.mpr fits
  have given : reader .document o.encode.settled.draft = .ok o :=
    reader_eq_ok.mpr ⟨rfl, o.ofValue_encode.symm⟩
  rw [attempt, whole, ← given]
  rfl

/-- An observation takes two levels, for itself and its protocol. -/
lemma fits_encode (o : Observation) (n : Nat) : o.encode.Fits (some (n + 2)) := by
  apply Value.fits_object
  simp only [List.forall_mem_cons]
  exact ⟨fits_encodeOption Value.fits_string _,
    fits_encodeOption (fun a : Address => Value.fits_string a.text) _,
    fits_encodeOption (fun s : SocketAddress => Value.fits_string s.text) _,
    fits_encodeOption (fun p => p.fits_encode n) _,
    fits_encodeOption (fun r : Role => Value.fits_string r.name) _,
    fits_encodeOption (fun t : Micros => Value.fits_int t.us) _, List.forall_mem_nil _⟩

end Observation

namespace Batch

/-- Attempts that all succeed give all their observations. -/
lemma filterMap_ok (os : List Observation) :
    (os.map Except.ok).filterMap (Except.toOption : Except ReadError Observation → _) = os := by
  rw [List.filterMap_map]
  exact List.filterMap_some

/-- A batch is read from the document that it is written as, with every observation. -/
lemma writes_encode (b : Batch) : b.encode.Writes reader b := by
  have observations : List.Forall₂ (fun v a => v.Writes Observation.attempt a)
      (b.observations.map Observation.encode) (b.observations.map Except.ok) := by
    rw [List.forall₂_map_left_iff, List.forall₂_map_right_iff, List.forall₂_same]
    exact fun o _ => o.writes_attempt
  have fields : row.Writes _ (b.time, b.observations.map Except.ok, ()) :=
    .field b.time.writes_encode (.field (Value.writes_list observations) .done)
  apply fields.readAs (by decide)
  simp only [filterMap_ok]

/-- A batch takes four levels: its observations stand in a list. -/
lemma fits_encode (b : Batch) (n : Nat) : b.encode.Fits (some (n + 4)) := by
  apply Value.fits_object
  simp only [List.forall_mem_cons]
  exact ⟨Value.fits_int _, Value.fits_map (fun o => o.fits_encode n) _, List.forall_mem_nil _⟩

end Batch

end Traffic

namespace Request

/-- A request is read from the document that it is written as. -/
lemma writes_encode (r : Request) : r.encode.Writes reader r := by
  cases r with
  | hello host =>
    have known : choice.select "Hello" = .ok (.fields
      (helloRow.readAs "struct variant Request::Hello" fun fields => hello fields.1)) := rfl
    have fields : helloRow.Writes _ (host, ()) := .field (Value.writes_string host) .done
    exact Choice.writes_content known (fields.readAs (by decide) rfl)
  | update b =>
    have known : choice.select "Update" = .ok (.one (Traffic.Batch.reader.map update)) := rfl
    exact Choice.writes_content known (b.writes_encode.map update)

/-- A request takes five levels at most, one for its kind. -/
lemma fits_encode (r : Request) (n : Nat) : r.encode.Fits (some (n + 5)) := by
  cases r with
  | hello host =>
    apply Value.fits_object
    rw [List.forall_mem_singleton]
    apply Value.fits_object
    rw [List.forall_mem_singleton]
    exact Value.fits_string host
  | update b =>
    apply Value.fits_object
    rw [List.forall_mem_singleton]
    exact b.fits_encode n

/-- The document that a request is written as is not deeper than a text may be, and from every text
that this document is read from, the request is read. -/
theorem decode_encode (r : Request) : r.encode.Fits Source.top.room ∧
    ∀ text, decode Reader.value text = .ok r.encode → decode reader text = .ok r := by
  refine ⟨r.fits_encode 122, fun text printed => ?_⟩
  obtain ⟨whole, rest⟩ := decode_eq_ok.mp printed
  rw [Reader.value_eq_ok] at whole
  refine decode_eq_ok.mpr ⟨?_, rest⟩
  rw [Draft.eq_draft_of_strict whole]
  exact r.writes_encode .top (Value.fits_of_strict whole)

/-- A batch of an observation that lacks its container. Its role and its protocol are not known, and
it has a scope and a close time of zero. -/
def sparseRequest : Request :=
  .update ⟨.clamp (-5), [⟨none, some (.v6 ⟨#v[0, 0, 0, 0, 0, 0xffff, 0x102, 0x304]⟩),
    some (.v6 ⟨#v[0xfe80, 0, 0, 0, 0, 0, 0, 1]⟩ 443 3), some (.other 132), some .unknown,
    some .zero⟩]⟩

/-- A text of the document, all of it in ASCII. -/
def sparseText : Bytes := List.map byte <| String.toList <|
  "\x7b\"Update\":\x7b\"time\":-5,\"updated\":[\x7b\"container_id\":null," ++
    "\"local_address\":\"::ffff:1.2.3.4\",\"remote_address\":\"[fe80::1%3]:443\"," ++
    "\"protocol\":\x7b\"Other\":132\x7d,\"role\":\"Unknown\"," ++
    "\"close_timestamp\":0\x7d]\x7d\x7d"

set_option maxRecDepth 4096 in
/-- The observation is read back, with what it has and without what it lacks. -/
theorem decode_encode_sparse : decode Reader.value sparseText = .ok sparseRequest.encode ∧
    decode reader sparseText = .ok sparseRequest := by
  have printed : decode Reader.value sparseText = .ok sparseRequest.encode := by cbv
  exact ⟨printed, (decode_encode sparseRequest).2 sparseText printed⟩

end Request

end FlowGraph
