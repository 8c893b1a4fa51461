import CartCriteria.Config.Basic
import CartCriteria.Json.Reader

/-! The reading of a configuration from a document. Both the configuration and its settings are an
object of named fields or an array of them in order; what is missing has its standard value. A text
that the strict reading refuses for any reason is read again as relaxed. -/
namespace CartCriteria.Config

/-- How a kind of document is read where the two kinds differ. -/
structure DocumentKind where
  /-- What leaves denote. -/
  reading : Reading
  /-- The value of a rule. -/
  rule : Document → Option Json
  /-- The threshold that a number denotes. -/
  threshold : WrittenNumber → Option Nat
  /-- Whether a part that is not looked into may stand in the document. -/
  allowsUnread : Document → Bool
  /-- Whether an array may have more items than there are fields. -/
  allowsExtraItems : Bool

/-- The integer part of a number, within 64 bits: nothing is below zero, and infinity is the
greatest. Not-a-number is zero. -/
def truncate64 : Binary64 → Nat
  | .nan => 0
  | .infinite negative => if negative then 0 else UInt64.size - 1
  | .finite x =>
    if x.negative then 0 else min (unitsOfMagnitude x.magnitude / unitsPerOne) (UInt64.size - 1)

/-- The number that a relaxed document gives where a number is asked for. Infinity and not-a-number
count here, but signed hexadecimal digits, a plus sign in front of a word and overflow do not. -/
def relaxedNumber? : WrittenNumber → Option Binary64
  | .decimal sign n => (Relaxed.finite? sign n).map .finite
  | .hexadecimal .none digits => (Relaxed.hexadecimal? digits).map .ofNat
  | .hexadecimal _ _ => none
  | .infinity .plus | .notANumber .plus => none
  | .infinity sign => some (.infinite (sign = .minus))
  | .notANumber _ => some .nan

/-- Strict documents. A rule lies in two containers already, the threshold is a natural number
written as an integer, and what is not looked into need only be grammatical. -/
def strictKind : DocumentKind where
  reading := Strict.reading
  rule := Strict.json? (Strict.depthLimit - 2)
  threshold
    | .decimal sign n =>
      match Strict.integer? sign n with
      | some (.integer i _) => if 0 ≤ i then some i.toNat else none
      | _ => none
    | _ => none
  allowsUnread _ := true
  allowsExtraItems := false

/-- Relaxed documents. The threshold is any number, truncated, and what is not looked into must
denote a value all the same. -/
def relaxedKind : DocumentKind where
  reading := Relaxed.reading
  rule d := d.toJson? Relaxed.reading
  threshold n := (relaxedNumber? n).map truncate64
  allowsUnread d := (d.toJson? Relaxed.reading).isSome
  allowsExtraItems := true

/-- The fields of a structure in order: its known fields, each with the document that was given for
it. A field may be given once; members with other names must be allowed to go unread. -/
def fieldsOf? (kind : DocumentKind) (names : List String) :
    Document → Option (List (Option Document))
  | .object members => do
    let named ← members.mapM fun (key, d) => do
      let name ← StringPiece.text? kind.reading.pair key
      return (name, d)
    let given := fun name => named.filter fun m => m.1 == name
    if named.all fun m => names.contains m.1 || kind.allowsUnread m.2 then
      names.mapM fun name =>
        match given name with
        | [] => some none
        | [m] => some (some m.2)
        | _ => none
    else none
  | .array items =>
    if kind.allowsExtraItems || items.length ≤ names.length then
      some ((List.range names.length).map fun i => items[i]?)
    else none
  | _ => none

def rules? (kind : DocumentKind) : Document → Option (List (String × Json))
  | .object members => do
    let bindings ← members.mapM fun (key, d) => do
      let name ← StringPiece.text? kind.reading.pair key
      let rule ← kind.rule d
      return (name, rule)
    return Dictionary.ofList bindings
  | _ => none

def defaultRule? (kind : DocumentKind) : Document → Option (Option String)
  | .null => some none
  | .string pieces => (StringPiece.text? kind.reading.pair pieces).map some
  | _ => none

def threshold? (kind : DocumentKind) : Document → Option Nat
  | .number n => kind.threshold n
  | _ => none

def settings? (kind : DocumentKind) (d : Document) : Option Settings :=
  match fieldsOf? kind ["default_rule", "fuzzy_threshold"] d with
  | some [name, number] => do
    let name ← match name with
      | some d => defaultRule? kind d
      | none => some none
    let number ← match number with
      | some d => threshold? kind d
      | none => some Settings.standardThreshold
    if h : number < UInt64.size then return ⟨name, number, h⟩ else none
  | _ => none

def ofDocument? (kind : DocumentKind) (d : Document) : Option Config :=
  match fieldsOf? kind ["rules", "settings"] d with
  | some [rules, settings] => do
    let bindings ← match rules with
      | some d => rules? kind d
      | none => some []
    let settings ← match settings with
      | some d => settings? kind d
      | none => some Settings.standard
    return ⟨Dictionary.ofList bindings, Dictionary.sorted_ofList bindings, settings⟩
  | _ => none

def ofText? (text : String) : Option Config :=
  match (Strict.document? text).bind (ofDocument? strictKind) with
  | some config => some config
  | none => (Relaxed.document? text).bind (ofDocument? relaxedKind)

end CartCriteria.Config
