import Stencil.Digest.Catalog
import Stencil.Encoding.Base64
import Stencil.Encoding.Percent
import Stencil.Json.Reader
import Stencil.Value.Rendering
import Stencil.Yaml.Meaning
import Stencil.Yaml.Writer

/-!
# Encodings of values

A value written in an encoding, a text read back from one, and the digest of a text. JSON and YAML
take the value itself, the other encodings its text. An encoding that does not exist leaves the text
as it is.
-/

namespace Stencil.Coding

open Stencil.Text

inductive Encoding
  | base64 | hex | url | json | yaml
deriving DecidableEq, Repr

namespace Encoding

def name : Encoding → String
  | .base64 => "base64"
  | .hex => "hex"
  | .url => "url"
  | .json => "json"
  | .yaml => "yaml"

def every : List Encoding := [.base64, .hex, .url, .json, .yaml]

/-- The encoding that a value names. -/
def ofValue? (v : Value) : Option Encoding :=
  v.str?.bind fun s => every.find? fun e => e.name == s

end Encoding

/-- A text in one of the encodings of text. -/
def encodeText (e : Encoding) (cs : List Char) : List Char :=
  match e with
  | .base64 => Base64.encode (utf8 cs)
  | .hex => Hex.encode (utf8 cs)
  | .url => Percent.encode cs
  | .json | .yaml => cs

def encode (v encoding : Value) : Except Failure Value :=
  match Encoding.ofValue? encoding with
  | some .json => (Json.text .spaced v).map .str
  | some .yaml => (Yaml.write v).map Value.ofChars
  | some e => v.renderChars.map fun cs => Value.ofChars (encodeText e cs)
  | none => v.renderChars.map Value.ofChars

/-- The text that bytes are, refused as an encoding if they are none. -/
def textOf (e : Encoding) (bs : Option Bytes) : Except Failure Value :=
  match bs.bind decode? with
  | some cs => .ok (Value.ofChars cs)
  | none => .error (.undecodable e.name)

/-- The value that a text stands for in an encoding. -/
def decodeText (e : Encoding) (cs : List Char) : Except Failure Value :=
  match e with
  | .base64 =>
      if cs.all fun c => c.toNat < 0x80 then textOf e (Base64.decode? cs) else .error .badValue
  | .hex =>
      match Hex.decode? cs with
      | some bs => textOf e (some bs)
      | none => .error .badValue
  | .url => .ok (Value.ofChars (Percent.decode cs))
  | .json => Json.read cs
  | .yaml =>
      match Yaml.read cs with
      | .error .notYaml => .error (.undecodable e.name)
      | r => r

/-- The value that the text of a value stands for in an encoding. -/
def decode (v encoding : Value) : Except Failure Value := do
  let cs ← v.renderChars
  match Encoding.ofValue? encoding with
  | some e => decodeText e cs
  | none => .ok (Value.ofChars cs)

/-- The digest of a text in hexadecimal, under a key if the secret counts as true. -/
def hash (v algorithm secret : Value) : Except Failure Value := do
  let msg := utf8 (← v.renderChars)
  let key ← if secret.isTruthy then (secret.renderChars).map fun cs => some (utf8 cs) else .ok none
  match algorithm.str?.bind Digest.algorithm? with
  | none => .error .badValue
  | some a =>
      let digest := match key with
        | some key => a.keyed key msg
        | none => a.digest msg
      .ok (Value.ofChars (Hex.encode digest))

end Stencil.Coding
