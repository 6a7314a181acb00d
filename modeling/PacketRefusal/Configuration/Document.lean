import PacketRefusal.Configuration.Basic
import PacketRefusal.Json.Value

/-!
# The configuration in a JSON document

`Configuration.ofDocument?` reads a configuration that is written as JSON. A record is an object,
whose members may stand in any order, or an array of exactly its fields in their order. Unknown
members are ignored; a known member must not occur twice. Only the log file may be missing, which
is the same as null. Ranges beyond those of the number types are not checked here.
-/

set_option autoImplicit false
set_option relaxedAutoImplicit false

namespace PacketRefusal.Configuration

open Json

/-- The values of the members of an object that have some key. -/
def membersNamed (name : String) (members : List (Option String × Value)) : List Value :=
  (members.filter fun (key, _) ↦ key == some name).map (·.2)

/-- The value of each field of a record, absent if the record does not have it. Every key must be
a text, and no field may occur twice; an array has all fields. -/
def fields? (names : List String) : Value → Option (List (Option Value))
  | .array items => if items.length = names.length then some (items.map some) else none
  | .object members =>
    if members.all (·.1.isSome) then
      names.mapM fun name ↦
        match membersNamed name members with
        | [] => some none
        | [value] => some (some value)
        | _ => none
    else none
  | _ => none

def integer? (lower upper : Int) : Value → Option Int
  | .number number => do
    let value ← number.integer?
    if lower ≤ value ∧ value ≤ upper then some value else none
  | _ => none

def text? : Value → Option String
  | .text value => value
  | _ => none

def bool? : Value → Option Bool
  | .bool value => some value
  | _ => none

def optionalText? : Value → Option (Option String)
  | .null => some none
  | value => (text? value).map some

def diversion? (value : Value) : Option DiversionSettings := do
  let fields ← fields? ["priority", "buffer_size"] value
  match fields with
  | [some priority, some bufferSize] => do
    let priority ← integer? (-32768) 32767 priority
    let bufferSize ← integer? 0 0xFFFFFFFFFFFFFFFF bufferSize
    return ⟨priority, bufferSize.toNat⟩
  | _ => none

def logging? (value : Value) : Option LoggingSettings := do
  let fields ← fields? ["level", "log_file", "color"] value
  match fields with
  | [some level, file, some color] => do
    let level ← text? level
    let file ← optionalText? (file.getD .null)
    let color ← bool? color
    return ⟨level, file, color⟩
  | _ => none

/-- The configuration that a document describes. -/
def ofDocument? (document : String) : Option Configuration := do
  let value ← Value.parse? document
  let fields ← fields? ["divert", "logging"] value
  match fields with
  | [some diversion, some logging] => do
    let diversion ← diversion? diversion
    let logging ← logging? logging
    return ⟨diversion, logging⟩
  | _ => none

end PacketRefusal.Configuration
