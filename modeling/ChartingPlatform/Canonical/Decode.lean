/-
  Decoding canonical contracts (`postgres_result_materialization.py`):
  `decode_canonical_contract`, `_decode_canonical_value` and the two type
  registries.

  The contract classes themselves are an environment `Classes`: which classes
  each module binds, the fields and the constructor of every dataclass, and the
  members of every enumeration.  The registries are the ones of the source: a
  closed list of modules for dataclasses and another one for enumerations.

  The decoder reads the texts the encoder writes.  Where Python's readers
  (`int`, `float.fromhex`, `datetime.fromisoformat`, `json.loads`) are more
  liberal, the payload is not canonical and the final comparison refuses it.
-/
import ChartingPlatform.Canonical.Equality

namespace ChartingPlatform

open Lib

/-! ## Contract classes -/

structure DataclassType where
  /-- `dataclasses.fields` -/
  fields : List Field
  /-- `__init__` and `__post_init__` on the values of the init fields, in
      order: the field values of the new instance. -/
  construct : List PyValue → Except PyError (List PyValue)
  isPrivate_fields : ∀ f ∈ fields, f.isPrivate = false
  nodup_fields : (fields.map Field.name).Nodup
  length_construct : ∀ args vs, construct args = .ok vs → vs.length = fields.length

/-- The classes of the package, by qualified name. -/
structure Classes where
  /-- The classes among `vars(module).values()`. -/
  vars : String → List String
  dataclass : String → Option DataclassType
  /-- The texts of the members of a `StrEnum`. -/
  enum : String → Option (List String)

/-- The modules `_canonical_dataclass_registry` looks into. -/
def dataclassModules : List String :=
  ["admission", "capabilities", "conformance", "contracts", "experiments", "engine_execution",
    "execution", "execution_orchestration", "forward_context", "forward_account", "forward_state",
    "lifecycle", "lease_observations", "nautilus_forward_delivery", "nautilus_runtime_bundle",
    "rebalance", "runtime", "runtime_execution", "dispatch", "search_dispatch", "search_state",
    "sandbox", "sdk", "worker_process", "workers", "walk_forward_search", "walk_forward_summary"]

/-- The modules `_canonical_enum_registry` looks into. -/
def enumModules : List String :=
  ["admission", "capabilities", "conformance", "contracts", "experiments", "engine_execution",
    "execution", "execution_orchestration", "lease_observations", "lifecycle", "rebalance",
    "runtime", "runtime_execution", "dispatch", "search_dispatch", "search_state", "sandbox",
    "sdk", "worker_process", "workers", "walk_forward_search", "walk_forward_summary"]

section
variable (env : Classes)

def Classes.bound (modules : List String) (name : String) : Bool :=
  modules.any fun m => decide (name ∈ env.vars m)

/-- `_canonical_dataclass_registry().get(name)`. -/
def canonicalDataclassRegistry (name : String) : Option DataclassType :=
  if env.bound dataclassModules name then env.dataclass name else none

/-- `_canonical_enum_registry().get(name)`. -/
def canonicalEnumRegistry (name : String) : Option (List String) :=
  if env.bound enumModules name then env.enum name else none

/-! ## The decoder -/

def decodedTags : List String :=
  ["null", "bool", "str", "int", "float", "decimal", "datetime", "date", "mapping", "set",
    "tuple", "list", "enum", "dataclass"]

def malformed : Json → PyError
  | .arr (.str tag :: _) =>
    if tag ∈ decodedTags then valueError (tag ++ " canonical value is malformed")
    else valueError ("unsupported canonical tag: " ++ tag)
  | _ => valueError "canonical value must be a tagged list"

def orRaise {α : Type} (x : Option α) (message : String) : Except PyError α :=
  match x with
  | some a => .ok a
  | none => .error (valueError message)

/-- `except (TypeError, ValueError) as error: raise ValueError(message) from error`. -/
def rewrap {α : Type} (x : Except PyError α) (message : String) : Except PyError α :=
  match x with
  | .ok a => .ok a
  | .error e =>
    if e.kind = .valueError ∨ e.kind = .typeError then .error (valueError message) else .error e

@[simp] theorem rewrap_eq_ok {α : Type} {x : Except PyError α} {message : String} {a : α} :
    rewrap x message = .ok a ↔ x = .ok a := by
  cases x with
  | ok b => simp [rewrap]
  | error e => simp only [rewrap]; split <;> simp

@[simp] theorem orRaise_eq_ok {α : Type} {x : Option α} {message : String} {a : α} :
    orRaise x message = .ok a ↔ x = some a := by
  cases x <;> simp [orRaise]

/-- `_decode_canonical_int`. -/
def decodeCanonicalInt (s : String) : Except PyError PyValue := do
  let z ← orRaise (textInt? s.toList) "int canonical value is invalid"
  ensure (intText z = s.toList) (valueError "int canonical value is not normalized")
  return .int z

/-- `_decode_canonical_decimal`. -/
def decodeCanonicalDecimal (s : String) : Except PyError PyValue :=
  (orRaise (decimalOfText? s.toList) "decimal canonical value is invalid").map .decimal

/-- `_decode_canonical_datetime`. -/
def decodeCanonicalDatetime (s : String) : Except PyError PyValue :=
  (orRaise (instantOfText? s.toList) "datetime canonical value is invalid").map
    fun t => .datetime (.utc t)

/-- `frozenset(items)`. -/
def decodeSet (items : List PyValue) : Except PyError PyValue := do
  ensure (∀ v ∈ items, hashable v = true)
    (valueError "set canonical value contains an unhashable item")
  return .set true (distinct items)

def decodeMapping (items : List (String × PyValue)) : Except PyError PyValue := do
  ensure (items.map Prod.fst).Nodup
    (valueError "mapping canonical value contains duplicate keys")
  return .mapping (items.map fun i => (.str i.1, i.2))

/-- `enum_type(value)`. -/
def decodeEnum (cls : String) (value : PyValue) : Except PyError PyValue := do
  let members ← orRaise (canonicalEnumRegistry env cls)
    "enum canonical value uses an unsupported type"
  match value with
  | .str s =>
    ensure (s ∈ members) (valueError (s ++ " is not a valid " ++ cls))
    return .enum cls (.str s)
  | _ => .error (valueError ("not a valid " ++ cls))

def initValues (fields : List Field) (vs : List PyValue) : List PyValue :=
  ((fields.zip vs).filter fun f => f.1.init).map Prod.snd

def decodedField (items : List (String × PyValue)) (f : Field) : Option PyValue :=
  (items.find? fun i => decide (i.1 = f.name)).map Prod.snd

/-- `_decode_canonical_dataclass`, after its fields are decoded. -/
def decodeDataclass (cls : String) (items : List (String × PyValue)) : Except PyError PyValue := do
  let type ← orRaise (canonicalDataclassRegistry env cls)
    "dataclass canonical value uses an unsupported type"
  ensure (items.map Prod.fst).Nodup
    (valueError "dataclass canonical value contains duplicate fields")
  ensure ((items.map Prod.fst).toFinset = (type.fields.map Field.name).toFinset)
    (valueError "dataclass canonical value fields do not match its schema")
  let vs ← rewrap
    (type.construct ((type.fields.filter Field.init).filterMap (decodedField items)))
    "dataclass canonical value failed contract validation"
  return .dataclass cls (type.fields.zip vs)

mutual

/-- `_decode_canonical_value`. -/
def decodeCanonicalValue : Json → Except PyError PyValue
  | .arr [.str "null"] => .ok .none
  | .arr [.str "bool", .bool b] => .ok (.bool b)
  | .arr [.str "str", .str s] => .ok (.str s)
  | .arr [.str "int", .str s] => decodeCanonicalInt s
  | .arr [.str "float", .str s] =>
    (orRaise (floatOfHex? s.toList) "float canonical value is invalid").map .float
  | .arr [.str "decimal", .str s] => decodeCanonicalDecimal s
  | .arr [.str "datetime", .str s] => decodeCanonicalDatetime s
  | .arr [.str "date", .str s] =>
    (orRaise (dateOfText? s.toList) "date canonical value is invalid").map .date
  | .arr [.str "mapping", .arr es] => collect (decodeEntries es) >>= decodeMapping
  | .arr [.str "set", .arr js] => collect (decodeItems js) >>= decodeSet
  | .arr [.str "tuple", .arr js] => (collect (decodeItems js)).map .tuple
  | .arr [.str "list", .arr js] => (collect (decodeItems js)).map .list
  | .arr [.str "enum", .str cls, j] => decodeCanonicalValue j >>= decodeEnum env cls
  | .arr [.str "dataclass", .str cls, .arr es] =>
    collect (decodeEntries es) >>= decodeDataclass env cls
  | j => .error (malformed j)

def decodeItems : List Json → List (Except PyError PyValue)
  | [] => []
  | j :: js => decodeCanonicalValue j :: decodeItems js

def decodeEntries : List Json → List (Except PyError (String × PyValue))
  | [] => []
  | .arr [.str k, j] :: js => (decodeCanonicalValue j).map (fun v => (k, v)) :: decodeEntries js
  | _ :: js => .error (valueError "canonical entry is malformed") :: decodeEntries js

end

/-- `isinstance(value, expected_type)` for a contract class; contract classes
    have no subclasses. -/
def isInstance (v : PyValue) (expected : String) : Bool :=
  match v with
  | .dataclass cls _ => cls == expected
  | _ => false

/-- The body of the `try` block. -/
def decodeContractBody (payload expected : String) : Except PyError PyValue := do
  let root ← orRaise (Json.loads payload) "JSONDecodeError"
  let decoded ← decodeCanonicalValue env root
  ensure (isInstance decoded expected = true)
    (valueError ("canonical payload root is not a " ++ expected))
  let text ← canonicalJson decoded
  ensure (text = payload) (valueError "canonical payload is not canonical")
  return decoded

/-- `decode_canonical_contract`. -/
def decodeCanonicalContract (payload expected : String) : Except PyError PyValue :=
  rewrap (decodeContractBody env payload expected) "canonical contract payload is malformed"

/-! ## What the decoder supports -/

mutual

def decodable : PyValue → Bool
  | .dataclass cls fs => (canonicalDataclassRegistry env cls).isSome && decodableFields fs
  | .enum cls _ => (canonicalEnumRegistry env cls).isSome
  | .timedelta _ => false
  | .mapping is => decodableEntries is
  | .set _ xs => decodableItems xs
  | .tuple xs => decodableItems xs
  | .list xs => decodableItems xs
  | _ => true

def decodableItems : List PyValue → Bool
  | [] => true
  | v :: vs => decodable v && decodableItems vs

def decodableEntries : List (PyKey × PyValue) → Bool
  | [] => true
  | (_, v) :: is => decodable v && decodableEntries is

def decodableFields : List (Field × PyValue) → Bool
  | [] => true
  | (f, v) :: fs => !omitted f v && decodable v && decodableFields fs

end

end

end ChartingPlatform
