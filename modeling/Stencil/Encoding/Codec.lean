import Stencil.Encoding.Standard

/-!
# Encodings of files

Templates are read and programs are written in a standard encoding, or in another one that the host
has a codec for.  What such a codec makes of bytes and of texts is the host's affair.

## Main definitions

* `Codec`, `Codecs` — what a host has beside the standard encodings.
* `Encoding`, `Encoding.ofName?` — the encodings and their names.
* `Encoding.encode` — the bytes of a text, or what is wrong with it.
* `Encoding.decode` — the source that the bytes of a file make.
-/

namespace Stencil

/-- What goes wrong when a text is encoded. -/
inductive EncodeFault where
  /-- The encoding has no bytes for some characters. -/
  | missing (run : MissingRun)
  /-- A codec of the host gives up, and says why in its own words. -/
  | told (message : String)
  deriving DecidableEq, Repr, Inhabited

/-- The wording of a fault. -/
def EncodeFault.message : EncodeFault → String
  | missing run => run.message
  | told message => message

/-- An encoding that only some hosts have. -/
structure Codec where
  /-- The source that the bytes of a file make, however they are cut into chunks. -/
  decode : Bytes → Source
  /-- The bytes of a text. -/
  encode : List Char → Except EncodeFault Bytes

/-- The codecs that a host has beside the standard encodings, by their names. -/
abbrev Codecs := String → Option Codec

/-- A host that has the standard encodings only. -/
def Codecs.none : Codecs := fun _ => Option.none

/-- The encodings of files. -/
inductive Encoding where
  /-- One of the standard encodings. -/
  | standard (encoding : StandardEncoding)
  /-- An encoding that the host has a codec for. -/
  | further (codec : Codec)

namespace Encoding

/-- UTF-8. -/
abbrev utf8 : Encoding := standard .utf8

/-- UTF-8 with a byte-order mark in front. -/
abbrev utf8Marked : Encoding := standard .utf8Marked

/-- The encoding that has the first 128 characters. -/
abbrev ascii : Encoding := standard .ascii

/-- The encoding with a given name.  The names of the standard encodings are not open to codecs of
the host. -/
def ofName? (name : String) (codecs : Codecs := .none) : Option Encoding :=
  match StandardEncoding.ofName? name with
  | some encoding => some (standard encoding)
  | none => (codecs name).map further

/-- The bytes of a text. -/
def encode (s : List Char) : Encoding → Except EncodeFault Bytes
  | standard encoding => (encoding.encode s).mapError .missing
  | further codec => codec.encode s

/-- The source that the bytes of a file make. -/
def decode (bytes : Bytes) : Encoding → Source
  | standard encoding => encoding.decode bytes
  | further codec => codec.decode bytes

/-- A host has no say in the standard encodings. -/
theorem ofName?_of_standard {name : String} {encoding : StandardEncoding}
    (h : StandardEncoding.ofName? name = some encoding) (codecs : Codecs) :
    ofName? name codecs = some (standard encoding) := by
  rw [ofName?, h]

end Encoding

end Stencil
