import GuideLayer.Json.Draft

/-!
Decoders: what reads a draft as a value of the domain. A record is read from
an object, whose entries may come in any order and among unknown ones, or
from a list of its fields in order; every field it finds replaces one part of
a value that was there before. What makes up for a field that is not found is
up to the field.
-/

namespace GuideLayer

/-- Reads a draft that may still be nested so many levels deep. -/
abbrev Decoder (α : Type) := Nat → Draft → Except Fault α

/-- A field of a record: its name, and how its value changes the record. -/
structure Field (σ : Type) where
  name : String
  read : Decoder (σ → σ)
  /-- What makes up for the value, unless the field has to be there. -/
  missing : Option (σ → σ)

namespace Decoder

variable {α σ : Type}

def float : Decoder Float := fun _ d =>
  match d with
  | .number (.ok n) =>
    match n.value with
    | .ok (.nat k) => .ok (Float.ofNat k)
    | .ok (.negative k) => .ok (-Float.ofNat k)
    | .ok (.float x) => .ok x
    | .error fault => .error fault
  | d => .error d.mismatch

/-- A whole number up to a limit, written without point and exponent. -/
def nat (limit : Nat) : Decoder Nat := fun _ d =>
  match d with
  | .number (.ok n) =>
    match n.value with
    | .ok (.nat k) => if k ≤ limit then .ok k else .error .mismatch
    | .ok _ => .error .mismatch
    | .error fault => .error fault
  | d => .error d.mismatch

def nat8 : Decoder Nat := nat 0xff

def nat32 : Decoder Nat := nat 0xffffffff

def nat64 : Decoder Nat := nat 0xffffffffffffffff

def bool : Decoder Bool := fun _ d =>
  match d with
  | .bool b none => .ok b
  | d => .error d.mismatch

def string : Decoder String := fun _ d =>
  match d with
  | .string q => q.text
  | d => .error d.mismatch

def option (decoder : Decoder α) : Decoder (Option α) := fun depth d =>
  match d with
  | .null none => .ok none
  | .null (some fault) => .error fault
  | d => (decoder depth d).map some

def list (decoder : Decoder α) : Decoder (List α) := fun depth d =>
  match d with
  | .array items stop => do
    let depth ← Draft.descend depth
    let values ← items.mapM (decoder depth)
    Draft.check stop
    pure values
  | d => .error d.mismatch

/-- The value of a name. -/
def named (choices : List (String × α)) (name : String) : Except Fault α :=
  match choices.lookup name with
  | some a => .ok a
  | none => .error .mismatch

/-- One of several names, or an object with one of them as the key of `null`. -/
def choice (choices : List (String × α)) : Decoder α := fun depth d =>
  match d with
  | .string q => do named choices (← q.text)
  | .absent fault => .error fault
  | .object [] stop => do
    let _ ← Draft.descend depth
    Draft.check stop
    throw .malformed
  | .object ((key, v) :: rest) stop => do
    let _ ← Draft.descend depth
    let a ← named choices (← key.keyText)
    match v with
    | .null none => if rest.isEmpty then Draft.check stop else throw .malformed
    | v => throw v.mismatch
    pure a
  | _ => .error .malformed

/-- Reads entries one after the other, with the names of the fields found so far. -/
def entries (fields : List (Field σ)) (depth : Nat) :
    List (Draft × Draft) → List String → σ → Except Fault (List String × σ)
  | [], found, s => .ok (found, s)
  | (key, v) :: rest, found, s => do
    let name ← key.keyText
    match fields.find? (fun f => f.name == name) with
    | none =>
      v.skim
      entries fields depth rest found s
    | some f =>
      if found.contains name then throw .mismatch
      let change ← f.read depth v
      entries fields depth rest (name :: found) (change s)

/-- Makes up for the fields that were not found, in their order. -/
def complete (found : List String) : List (Field σ) → σ → Except Fault σ
  | [], s => .ok s
  | f :: fields, s =>
    if found.contains f.name then complete found fields s
    else
      match f.missing with
      | some change => complete found fields (change s)
      | none => .error .mismatch

/-- Reads fields from items in order. Fields that need not be there may be missing at the end. -/
def items (depth : Nat) (stop : Option Fault) :
    List (Field σ) → List Draft → σ → Except Fault σ
  | [], [], s => do Draft.check stop; pure s
  | [], _ :: _, _ => .error .malformed
  | f :: fields, [], s => do
    Draft.check stop
    complete [] (f :: fields) s
  | f :: fields, v :: rest, s => do
    let change ← f.read depth v
    items depth stop fields rest (change s)

/-- Reads a record, field by field in place of those of the given one. -/
def record (fields : List (Field σ)) (start : σ) : Decoder σ := fun depth d =>
  match d with
  | .object list stop => do
    let depth ← Draft.descend depth
    let (found, s) ← entries fields depth list [] start
    Draft.check stop
    complete found fields s
  | .array list stop => do
    let depth ← Draft.descend depth
    items depth stop fields list start
  | d => .error d.mismatch

/-- Reads a draft that was settled before: whatever is wrong now is its kind. -/
def settled (decoder : Decoder α) (d : Draft) : Except Fault α :=
  match decoder 128 d with
  | .ok a => .ok a
  | .error _ => .error .mismatch

/-- Reads a whole text. Nothing but blanks may follow the value. -/
def ofText (decoder : Decoder α) (text : String) : Except Fault α := do
  let (draft, rest) := Draft.ofText text
  let a ← decoder 128 draft
  if (Draft.skipBlanks rest).isEmpty then pure a else throw .malformed

end Decoder

namespace Field

variable {α σ : Type}

/-- A field that has to be there. -/
def required (name : String) (decoder : Decoder α) (set : α → σ → σ) : Field σ :=
  ⟨name, fun depth d => (decoder depth d).map set, none⟩

/-- A field in whose absence the record keeps what it had. -/
def optional (name : String) (decoder : Decoder α) (set : α → σ → σ) : Field σ :=
  ⟨name, fun depth d => (decoder depth d).map set, some id⟩

/-- A field that has the given value in its absence. -/
def defaulted (name : String) (decoder : Decoder α) (set : α → σ → σ) (value : α) : Field σ :=
  ⟨name, fun depth d => (decoder depth d).map set, some (set value)⟩

end Field

end GuideLayer
