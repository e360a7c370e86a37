import ModelSearch.Text.Integer
import ModelSearch.Text.Lower

/-!
# Devices

A compute device: a kind and an index, negative if the kind has none.  `Device.ofName` reads

    name  = letters [ "(" digits? ")" | digits ]

in any case and with blanks around it, and accepts the CPU without an index and the GPU with one
or without.  A blank name is the CPU.
-/

namespace ModelSearch

structure Device where
  kind : String
  index : Int
  deriving DecidableEq, Repr

/-- Why a text names no device. -/
inductive DeviceFault where
  | name (text : String)
  | index (fault : Text.IntegerFault)
  deriving DecidableEq, Repr

def DeviceFault.message : DeviceFault → String
  | .name text => "Invalid device name: " ++ Text.quoted text
  | .index fault => fault.message

namespace Device

def cpu : Device := ⟨"cpu", -1⟩

def gpu (index : Int) : Device := ⟨"gpu", index⟩

def isGpu (d : Device) : Bool := d.kind = "gpu"

/-- The device's name, with its index if it has one. -/
def text (d : Device) : String :=
  if d.index < 0 then d.kind ++ "()" else d.kind ++ "(" ++ toString d.index ++ ")"

def literal (d : Device) : String :=
  "Device(device_type=" ++ Text.quoted d.kind ++ ", device_id=" ++ toString d.index ++ ")"

/-- The kind and the digits of a name in lower case. -/
def nameParts? (xs : List Char) : Option (List Char × List Char) :=
  let (kind, rest) := Text.cutWhere (fun c => !Text.isAsciiLower c) xs
  if kind.isEmpty then none
  else
    match rest with
    | [] => some (kind, [])
    | '(' :: rest =>
      let (digits, close) := Text.cutWhere (fun c => !Text.isDigit c) rest
      if close = [')'] then some (kind, digits) else none
    | rest => if rest.all Text.isDigit then some (kind, rest) else none

/-- The device that a name stands for. -/
def ofName (name : String) : Except DeviceFault Device :=
  let xs := Text.strip name.toList
  if xs.isEmpty then .ok cpu
  else
    match nameParts? (Text.lower xs) with
    | none => .error (.name name)
    | some (kind, digits) =>
      if kind = "cpu".toList then if digits.isEmpty then .ok cpu else .error (.name name)
      else if kind = "gpu".toList then
        if digits.isEmpty then .ok (gpu 0)
        else
          match Text.readInteger 10 digits with
          | .ok n => .ok (gpu n)
          | .error fault => .error (.index fault)
      else .error (.name name)

/-- The device of a name that may be missing. -/
def ofName? : Option String → Except DeviceFault Device
  | none => .ok cpu
  | some name => ofName name

end Device

end ModelSearch
