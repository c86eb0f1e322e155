import TagStore.Api.Reply
import TagStore.Codec
/-!
# Api.Codec

Requests about the byte form of documents: a document written and read back by a
codec, and bytes read as a document.
-/

namespace TagStore.Api

open Request

/-- A compression field, `None` when absent. -/
def compressionField (r : Request) (k : String) : Except Failure Compression :=
  match r.get? k with
  | none => .ok .none
  | some v =>
    match Compression.ofJson? v with
    | some c => .ok c
    | none => .error (.store (.json ("unknown compression in " ++ k)))

/-- `codec_roundtrip`: a document written by a codec and read back. -/
def codecRoundtripOp (r : Request) : Reply := do
  let c ← compressionField r "compression"
  let d ← r.document "poly"
  let codec := Codec.ofCompression c
  let bytes := codec.encode d
  let back ← Failure.lift (codec.decode bytes)
  let framedLength := ((Codec.framed .none).encode d).size
  let common := [("codec", Json.string (Codec.framed c).name), ("equal", .bool (back.beq d)),
    ("decoded", renderDocument false back), ("framed_length", Json.ofNat framedLength)]
  let extra := match c with
    | .none =>
      [("length", Json.ofNat bytes.size)] ++
        (if d.data.length ≤ 1 && d.metadata.length ≤ 1 then
          [("hex", Json.string (Binary.hexOf bytes))] else [])
    | _ => [("header", Json.string (Binary.hexOf (bytes.extract 0 5)))]
  return Json.obj (common ++ extra)

/-- `codec_decode`: bytes given in hexadecimal read by the framed codec when `codec` names
anything but `json`, and by the plain codec when it is `json` or not a string. -/
def codecDecodeOp (r : Request) : Reply := do
  let text ← r.text "hex"
  let some bytes := Binary.ofHex? text | .error (.request "bad hex")
  let codec ← match r.get? "codec" with
    | some (.string name) =>
      if name == "json" then pure Codec.plain
      else Codec.framed <$> compressionField r "compression"
    | _ => pure Codec.plain
  let d ← Failure.lift (codec.decode bytes)
  return renderDocument false d

end TagStore.Api
