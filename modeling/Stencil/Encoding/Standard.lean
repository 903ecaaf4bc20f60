import Stencil.Encoding.Utf8
import Stencil.Text.Quoted

/-!
# The standard encodings

Four encodings are at hand on every host.  A file is decoded as it is read, in chunks, and the
characters of a chunk are there before the next chunk is looked at; so a flaw in a later chunk comes
to light only when a character behind the earlier ones is wanted.

## Main definitions

* `StandardEncoding`, `StandardEncoding.ofName?` — the encodings and their names.
* `StandardEncoding.encode` — the bytes of a text, or the first run of characters that has none.
* `Source` — the characters of a file, up to the end of the file or to a flaw.
* `StandardEncoding.decode` — the source that the bytes of a file make.
-/

namespace Stencil

/-- The encodings that every host has. -/
inductive StandardEncoding where
  /-- UTF-8. -/
  | utf8
  /-- UTF-8 with a byte-order mark in front. -/
  | utf8Marked
  /-- One byte for each of the first 256 characters. -/
  | latin1
  /-- One byte for each of the first 128 characters. -/
  | ascii
  deriving DecidableEq, Repr, Inhabited

namespace StandardEncoding

/-- The encodings, in the order in which their names are looked up. -/
def all : List StandardEncoding := [utf8, utf8Marked, latin1, ascii]

/-- The first name of an encoding. -/
def name : StandardEncoding → String
  | utf8 => "utf_8"
  | utf8Marked => "utf_8_sig"
  | latin1 => "latin_1"
  | ascii => "ascii"

/-- The other names of an encoding. -/
def aliases : StandardEncoding → List String
  | utf8 => ["u8", "utf", "utf8", "utf8_ucs2", "utf8_ucs4", "cp65001"]
  | utf8Marked => []
  | latin1 =>
      ["8859", "cp819", "csisolatin1", "ibm819", "iso8859", "iso8859_1", "iso_8859_1",
       "iso_8859_1_1987", "iso_ir_100", "l1", "latin", "latin1"]
  | ascii =>
      ["646", "ansi_x3.4_1968", "ansi_x3.4_1986", "ansi_x3_4_1968", "cp367", "csascii", "ibm367",
       "iso646_us", "iso_646.irv_1991", "iso_ir_6", "us", "us_ascii"]

/-- The characters that make up the name of an encoding; all others only divide its words. -/
def isNameChar (c : Char) : Bool := c.isAlphanum || c == '.'

/-- A name in lower case with one underscore between its words, behind a gap between words or
not. -/
def foldName (gap : Bool) : List Char → List Char
  | [] => []
  | c :: rest =>
      if isNameChar c then
        if gap then '_' :: c.toLower :: foldName false rest else c.toLower :: foldName false rest
      else foldName true rest

/-- The encoding with a given name, in which neither case counts nor what divides its words.  In
the other names a point may stand for an underscore. -/
def ofName? (name : String) : Option StandardEncoding :=
  let folded := String.ofList (foldName false (name.toList.dropWhile fun c => !isNameChar c))
  let divided := folded.map fun c => if c = '.' then '_' else c
  all.find? fun e => e.aliases.contains folded || e.aliases.contains divided || e.name == folded

/-- The name of an encoding in messages. -/
def codecName : StandardEncoding → String
  | utf8 | utf8Marked => "utf-8"
  | latin1 => "latin-1"
  | ascii => "ascii"

end StandardEncoding

/-- The byte-order mark. -/
def Encoding.mark : Bytes := [0xEF, 0xBB, 0xBF]

/-! ### Writing -/

/-- A run of characters that an encoding has no bytes for. -/
structure MissingRun where
  /-- The encoding. -/
  encoding : StandardEncoding
  /-- The first of the characters. -/
  first : Char
  /-- How many characters stand in front of the run. -/
  start : Nat
  /-- How many characters the run has. -/
  length : Nat
  /-- How many characters the encoding has. -/
  limit : Nat
  deriving DecidableEq, Repr, Inhabited

/-- The wording of a run that is missing. -/
def MissingRun.message (f : MissingRun) : String :=
  let run :=
    if f.length ≤ 1 then
      "character '" ++ String.ofList (escapedCodePoint f.first) ++ "' in position "
        ++ toString f.start
    else "characters in position " ++ toString f.start ++ "-" ++ toString (f.start + f.length - 1)
  "'" ++ f.encoding.codecName ++ "' codec can't encode " ++ run ++ ": ordinal not in range("
    ++ toString f.limit ++ ")"

namespace StandardEncoding

/-- The bytes of a text whose characters are bytes below `limit`. -/
def encodeNarrow (encoding : StandardEncoding) (limit : Nat) (s : List Char) :
    Except MissingRun Bytes :=
  match s.dropWhile (·.toNat < limit) with
  | [] => .ok (s.map fun c => UInt8.ofNat c.toNat)
  | first :: rest =>
      .error
        { encoding, first, limit, start := (s.takeWhile (·.toNat < limit)).length
          length := ((first :: rest).takeWhile (limit ≤ ·.toNat)).length }

/-- The bytes of a text. -/
def encode (s : List Char) : StandardEncoding → Except MissingRun Bytes
  | utf8 => .ok (Utf8.encode s)
  | utf8Marked => .ok (Encoding.mark ++ Utf8.encode s)
  | latin1 => encodeNarrow latin1 256 s
  | ascii => encodeNarrow ascii 128 s

end StandardEncoding

/-! ### Reading -/

/-- Why bytes are no text in an encoding. -/
inductive DecodeCause where
  /-- They hold a flawed sequence. -/
  | flaw (flaw : Utf8.Flaw)
  /-- The file ends inside a sequence. -/
  | endMissing
  /-- A byte is beyond the characters that the encoding has. -/
  | notAscii
  deriving DecidableEq, Repr, Inhabited

/-- The wording of a cause. -/
def DecodeCause.text : DecodeCause → String
  | flaw .invalidStart => "invalid start byte"
  | flaw .invalidContinuation => "invalid continuation byte"
  | endMissing => "unexpected end of data"
  | notAscii => "ordinal not in range(128)"

/-- Bytes that are no text. -/
structure FlawedBytes where
  /-- The encoding. -/
  encoding : StandardEncoding
  /-- The first of the bytes. -/
  first : UInt8
  /-- How many bytes stand in front of them, in what was looked at. -/
  start : Nat
  /-- How many bytes they are. -/
  length : Nat
  /-- What is wrong with them. -/
  cause : DecodeCause
  deriving DecidableEq, Repr, Inhabited

/-- The wording of a flaw. -/
def FlawedBytes.message (f : FlawedBytes) : String :=
  let run :=
    if f.length ≤ 1 then
      "byte 0x" ++ String.ofList (hexDigits 2 f.first.toNat) ++ " in position " ++ toString f.start
    else "bytes in position " ++ toString f.start ++ "-" ++ toString (f.start + f.length - 1)
  "'" ++ f.encoding.codecName ++ "' codec can't decode " ++ run ++ ": " ++ f.cause.text

/-- What goes wrong when a file is decoded. -/
inductive DecodeFault where
  /-- Some bytes are no text. -/
  | flawed (bytes : FlawedBytes)
  /-- A codec of the host gives up, and says why in its own words; it may have found the bytes that
  are no text, or not. -/
  | told (message : String) (located : Bool)
  deriving DecidableEq, Repr, Inhabited

namespace DecodeFault

/-- The wording of a fault. -/
def message : DecodeFault → String
  | flawed bytes => bytes.message
  | told message _ => message

/-- Whether the bytes that are no text have been found. -/
def isLocated : DecodeFault → Bool
  | flawed _ => true
  | told _ located => located

end DecodeFault

/-- The characters of a file, up to its end or to a fault. -/
structure Source where
  /-- The characters that can be had. -/
  text : List Char
  /-- What comes to light when a character behind them is wanted: nothing, if the file ends. -/
  fault : Option DecodeFault := none
  deriving DecidableEq, Repr, Inhabited

/-- What is carried from one chunk of a file to the next. -/
structure Carry where
  /-- The bytes of a sequence whose end is still to come. -/
  kept : Bytes := []
  /-- No byte but those of a byte-order mark has been seen. -/
  fresh : Bool := true
  /-- A carriage return at the end of a chunk, held back until something follows it. -/
  held : Bool := false
  deriving DecidableEq, Repr, Inhabited

namespace StandardEncoding

/-- Whether bytes are the first two of three that would stand for a surrogate.  No third byte makes
a character of them, but they are kept until it is there. -/
def isCutSurrogate : Bytes → Bool
  | [first, second] => first == 0xED && 0xA0 ≤ second && second ≤ 0xBF
  | _ => false

/-- The characters of UTF-8 bytes, and the bytes of a sequence that more bytes may complete; at the
end of a file there are none to come. -/
def decodeUtf8 (encoding : StandardEncoding) (final : Bool) (bytes : Bytes) :
    Except FlawedBytes (List Char × Bytes) :=
  let decoded := Utf8.decode bytes
  let start := bytes.length - decoded.rest.length
  match decoded.flaw, decoded.rest with
  | some (length, flaw), first :: _ =>
      if !final && isCutSurrogate decoded.rest then .ok (decoded.text, decoded.rest)
      else .error ⟨encoding, first, start, length, .flaw flaw⟩
  | none, first :: rest =>
      if final then .error ⟨encoding, first, start, rest.length + 1, .endMissing⟩
      else .ok (decoded.text, decoded.rest)
  | _, [] => .ok (decoded.text, [])

/-- The characters of a chunk behind what is carried to it, and what is carried on.  Nothing is made
of bytes that may still turn out to be a byte-order mark. -/
def decodeBytes (encoding : StandardEncoding) (final : Bool) (carry : Carry) (chunk : Bytes) :
    Except FlawedBytes (List Char × Carry) :=
  let bytes := carry.kept ++ chunk
  let utf8 (bytes : Bytes) : Except FlawedBytes (List Char × Carry) :=
    (decodeUtf8 encoding final bytes).map fun (text, kept) =>
      (text, { carry with kept, fresh := false })
  match encoding with
  | .utf8 => utf8 bytes
  | .utf8Marked =>
      if !carry.fresh then utf8 bytes
      else if bytes.length < 3 && bytes.isPrefixOf Encoding.mark then
        .ok ([], { carry with kept := bytes })
      else if Encoding.mark.isPrefixOf bytes then utf8 (bytes.drop 3)
      else utf8 bytes
  | .latin1 => .ok (bytes.map fun b => Char.ofNat b.toNat, { carry with kept := [] })
  | .ascii =>
      match bytes.dropWhile (· < 0x80) with
      | [] => .ok (bytes.map fun b => Char.ofNat b.toNat, { carry with kept := [] })
      | first :: _ =>
          .error ⟨.ascii, first, (bytes.takeWhile (· < 0x80)).length, 1, .notAscii⟩

/-- The characters that a chunk sets free: a carriage return held back is put in front of them, and
one at their end is held back in turn, unless the file ends here. -/
def decodeChunk (encoding : StandardEncoding) (final : Bool) (carry : Carry) (chunk : Bytes) :
    Except FlawedBytes (List Char × Carry) :=
  (encoding.decodeBytes final carry chunk).map fun (decoded, carry) =>
    let text := if carry.held then '\r' :: decoded else decoded
    if !final && text.getLast? = some '\r' then (text.dropLast, { carry with held := true })
    else (text, { carry with held := false })

/-- The source that chunks make behind what is carried to them. -/
def decodeChunks (encoding : StandardEncoding) (carry : Carry) : List Bytes → Source
  | [] =>
      match encoding.decodeChunk true carry [] with
      | .error flaw => ⟨[], some (.flawed flaw)⟩
      | .ok (text, _) => ⟨text, none⟩
  | chunk :: chunks =>
      match encoding.decodeChunk false carry chunk with
      | .error flaw => ⟨[], some (.flawed flaw)⟩
      | .ok (text, carry) =>
          let others := encoding.decodeChunks carry chunks
          { others with text := text ++ others.text }

/-- Bytes cut into chunks of `size + 1` bytes, of which the last may be shorter. -/
def chunksOf (size : Nat) (bytes : Bytes) : List Bytes :=
  match bytes with
  | [] => []
  | b :: rest => (b :: rest).take (size + 1) :: chunksOf size ((b :: rest).drop (size + 1))
termination_by bytes.length
decreasing_by rw [List.length_drop, List.length_cons]; omega

/-- How many bytes of a file are looked at together. -/
def chunkSize : Nat := 8192

/-- The source that the bytes of a file make. -/
def decode (encoding : StandardEncoding) (bytes : Bytes) : Source :=
  encoding.decodeChunks {} (chunksOf (chunkSize - 1) bytes)

end StandardEncoding

end Stencil
