import TagStore.Codec
import TagStore.Proofs.Json.RoundTrip
import TagStore.Proofs.Compress.Lz4
import TagStore.Proofs.Compress.Snappy
import TagStore.Proofs.Compress.Zstd
import TagStore.Proofs.Storage.KeyValueAnswers
/-!
# Proofs.Codec.Frame

Documents read back from every codec. A document whose compact text reads back as itself
(`Document.Storable`: objects sorted by key at every depth, integers of the kind the reader
gives, nesting within the reader's limit) decodes from its own bytes (`Document.decode_encode`).

A frame is the compression's tag, the text's length as four little-endian bytes and the
packed text (`Codec.byteAt_frame`, `Codec.readLE_frame`, `Codec.extract_frame`). The reader
goes by the tag, so any framed codec reads what any other wrote; each compression expands
what it packed given the recorded length, within the lengths it packs (`Compression.Fits`,
`Compression.expand_pack`). A frame under five bytes, or with a tag past 3, is malformed.
So every codec restores every storable document that fits its compression
(`Codec.restores`), which is what the key-value backend's answers assume of their codec.
-/

namespace TagStore

open Binary

/-! ## Compressions -/

namespace Compression

/-- The lengths a compression packs and expands back: an LZ4 frame takes its length from the
header, which the reader refuses past `7E000000`, and a Snappy block's length is a 32-bit
number. -/
def Fits : Compression → Nat → Prop
  | .lz4, n => n ≤ 0x7E000000
  | .snappy, n => n ≤ Snappy.maxLength
  | _, _ => True

instance (c : Compression) (n : Nat) : Decidable (c.Fits n) := by
  cases c <;> unfold Fits <;> infer_instance

theorem ofTag?_tag (c : Compression) : ofTag? c.tag = some c := by
  cases c <;> rfl

theorem tag_lt (c : Compression) : c.tag < 4 := by
  cases c <;> decide

theorem ofTag?_eq_none {t : Nat} (h : 3 < t) : ofTag? t = Option.none := by
  obtain ⟨k, rfl⟩ : ∃ k, t = k + 4 := ⟨t - 4, by omega⟩
  rfl

/-- Each compression expands what it packed, given the length a frame header records. -/
theorem expand_pack (c : Compression) {raw : ByteArray} (h : c.Fits raw.size) :
    c.expand (c.pack raw) (raw.size % 2 ^ 32) = .ok raw := by
  cases c with
  | none => rfl
  | lz4 =>
    have hfit : raw.size ≤ 0x7E000000 := h
    rw [Nat.mod_eq_of_lt (by omega)]
    simp only [expand, pack, Nat.pow_eq]
    rw [if_neg (by omega), if_neg (by omega), Lz4.expand_pack]
  | zstd => simp only [expand, pack, Zstd.expand_pack]
  | snappy => simp only [expand, pack, Snappy.expand_pack raw h]

end Compression

/-! ## Documents as text -/

namespace Document

/-- A document whose compact text reads back as itself. -/
structure Storable (d : Document) : Prop where
  /-- Every object's keys are sorted, each once, as the reader gives them. -/
  normal : d.toJson.normalize = d.toJson
  /-- Every number is an integer of the kind the reader gives. -/
  integral : d.toJson.integral = true
  /-- The reader enters every level. -/
  nested : d.toJson.nesting ≤ Json.nestingLimit

/-- The three keys of a document's value are already in order. -/
theorem normalize_toJson (d : Document) :
    d.toJson.normalize = .object [("_id", .string d.id), ("data", (Json.object d.data).normalize),
      ("metadata", (Json.object d.metadata).normalize)] := by
  rfl

theorem Storable.data {d : Document} (hd : d.Storable) : (Json.object d.data).normalize = .object d.data := by
  have h := hd.normal
  rw [normalize_toJson, toJson] at h
  simp_all

theorem Storable.metadata {d : Document} (hd : d.Storable) :
    (Json.object d.metadata).normalize = .object d.metadata := by
  have h := hd.normal
  rw [normalize_toJson, toJson] at h
  simp_all

/-- A storable document decodes from its own bytes. -/
theorem decode_encode {d : Document} (hd : d.Storable) : decode d.encode = .ok d := by
  rw [decode, encode, Json.parseWrittenBytes_render hd.integral hd.nested]
  simp [toJson, ofSource?, Json.RecordSource.ofJson, Json.RecordSource.fields, fieldSpec, Json.objectFields?,
    Json.fields?, hd.data, hd.metadata]

end Document

/-! ## Frames -/

namespace Codec

section Frame

variable (c : Compression) (n : Nat) (payload : ByteArray)

theorem header_append : header c n ++ payload = ofList (c.tag.toUInt8 :: bytesLE n 4 ++ payload.data.toList) := by
  rw [← ofList_append, ofList_data_toList]
  rfl

theorem size_frame : (header c n ++ payload).size = 5 + payload.size := by
  rw [header_append, size_ofList]
  simp [length_bytesLE]
  omega

/-- The first byte of a frame is the compression's tag. -/
theorem byteAt_frame : byteAt (header c n ++ payload) 0 = c.tag := by
  have := c.tag_lt
  rw [header_append, byteAt_ofList _ (by simp)]
  simp
  omega

/-- The next four bytes of a frame are the length, little-endian, modulo `2 ^ 32`. -/
theorem readLE_frame : readLE (header c n ++ payload) 1 4 = n % 2 ^ 32 := by
  have h := readLE_ofList_bytesLE [c.tag.toUInt8] payload.data.toList n 4
  rw [header_append]
  simpa using h

/-- The rest of a frame is its payload. -/
theorem extract_frame : (header c n ++ payload).extract 5 (header c n ++ payload).size = payload := by
  have h := extract_ofList (c.tag.toUInt8 :: bytesLE n 4) payload.data.toList []
  simp only [List.append_nil, List.length_cons, length_bytesLE, Array.length_toList,
    ByteArray.size_data] at h
  rw [size_frame, header_append, h, ofList_data_toList]

end Frame

/-- A framed codec reads a frame by its tag, whatever its own compression: it expands the
payload by the tag's compression, given the recorded length, and decodes the text. -/
theorem decode_frame (c' c : Compression) (n : Nat) (payload : ByteArray) :
    (framed c').decode (header c n ++ payload) = (do
      let raw ← c.expand payload (n % 2 ^ 32)
      Document.decode raw) := by
  simp only [decode]
  rw [if_neg (by rw [size_frame]; omega), byteAt_frame, Compression.ofTag?_tag, extract_frame,
    readLE_frame]

theorem decode_short (c : Compression) {b : ByteArray} (h : b.size < 5) :
    (framed c).decode b = .error (.parse "Encoded poly too short") := by
  simp only [decode]
  rw [if_pos h]
  rfl

theorem decode_unknown_tag (c : Compression) {b : ByteArray} (h5 : 5 ≤ b.size) (ht : 3 < byteAt b 0) :
    (framed c).decode b = .error (.parse ("Unknown compression tag " ++ toString (byteAt b 0))) := by
  simp only [decode]
  rw [if_neg (by omega), Compression.ofTag?_eq_none ht]

/-- A framed codec reads a storable document from the frame of any framed codec whose
compression packs its text. -/
theorem decode_framed_encode (c' c : Compression) {d : Document} (hd : d.Storable)
    (hfit : c.Fits d.encode.size) : (framed c').decode ((framed c).encode d) = .ok d := by
  simp only [encode]
  rw [decode_frame, Compression.expand_pack c hfit]
  exact Document.decode_encode hd

theorem restores_plain {d : Document} (hd : d.Storable) : plain.Restores d :=
  Document.decode_encode hd

theorem restores_framed (c : Compression) {d : Document} (hd : d.Storable) (hfit : c.Fits d.encode.size) :
    (framed c).Restores d :=
  decode_framed_encode c c hd hfit

/-- **Documents survive every codec.** A storable document decodes from the plain codec's
bytes, and from the frame of every framed codec whose compression packs its text, by any
framed codec, which reads by the tag and not by its own compression. A frame is the
compression's tag, the text's length as four little-endian bytes and the packed text; an
input under five bytes, or with a tag past 3, is refused as malformed. -/
theorem frame_format_round_trip (d : Document) (hd : d.Storable) :
    plain.decode (plain.encode d) = .ok d ∧
    (∀ c c' : Compression, c.Fits d.encode.size → (framed c').decode ((framed c).encode d) = .ok d) ∧
    (∀ c : Compression,
      byteAt ((framed c).encode d) 0 = c.tag ∧
      readLE ((framed c).encode d) 1 4 = d.encode.size % 2 ^ 32 ∧
      ((framed c).encode d).extract 5 ((framed c).encode d).size = c.pack d.encode) ∧
    (∀ (c c' : Compression) (b : ByteArray), (framed c).decode b = (framed c').decode b) ∧
    (∀ (c : Compression) (b : ByteArray), b.size < 5 →
      (framed c).decode b = .error (.parse "Encoded poly too short")) ∧
    (∀ (c : Compression) (b : ByteArray), 5 ≤ b.size → 3 < byteAt b 0 →
      (framed c).decode b = .error (.parse ("Unknown compression tag " ++ toString (byteAt b 0)))) := by
  refine ⟨Document.decode_encode hd, fun c c' hfit => decode_framed_encode c' c hd hfit, ?_,
    fun _ _ _ => rfl, fun c _ h => decode_short c h, fun c _ h5 ht => decode_unknown_tag c h5 ht⟩
  intro c
  exact ⟨byteAt_frame .., readLE_frame .., extract_frame ..⟩

/-- A document with one number in its data: its frames under every compression read back. -/
theorem frame_format_round_trip_of_counter :
    Document.Storable ⟨"counter", [("n", .number (.nat 7))], []⟩ ∧
    plain.decode (plain.encode ⟨"counter", [("n", .number (.nat 7))], []⟩) =
      .ok ⟨"counter", [("n", .number (.nat 7))], []⟩ ∧
    (∀ c c' : Compression, c.Fits (Document.encode ⟨"counter", [("n", .number (.nat 7))], []⟩).size →
      (framed c').decode ((framed c).encode ⟨"counter", [("n", .number (.nat 7))], []⟩) =
        .ok ⟨"counter", [("n", .number (.nat 7))], []⟩) ∧
    (∀ c : Compression,
      byteAt ((framed c).encode ⟨"counter", [("n", .number (.nat 7))], []⟩) 0 = c.tag ∧
      readLE ((framed c).encode ⟨"counter", [("n", .number (.nat 7))], []⟩) 1 4 =
        (Document.encode ⟨"counter", [("n", .number (.nat 7))], []⟩).size % 2 ^ 32 ∧
      ((framed c).encode ⟨"counter", [("n", .number (.nat 7))], []⟩).extract 5
          ((framed c).encode ⟨"counter", [("n", .number (.nat 7))], []⟩).size =
        c.pack (Document.encode ⟨"counter", [("n", .number (.nat 7))], []⟩)) ∧
    (∀ (c c' : Compression) (b : ByteArray), (framed c).decode b = (framed c').decode b) ∧
    (∀ (c : Compression) (b : ByteArray), b.size < 5 →
      (framed c).decode b = .error (.parse "Encoded poly too short")) ∧
    (∀ (c : Compression) (b : ByteArray), 5 ≤ b.size → 3 < byteAt b 0 →
      (framed c).decode b = .error (.parse ("Unknown compression tag " ++ toString (byteAt b 0)))) := by
  have hd : Document.Storable ⟨"counter", [("n", .number (.nat 7))], []⟩ := ⟨rfl, rfl, by decide⟩
  exact ⟨hd, frame_format_round_trip _ hd⟩

end Codec

end TagStore
