/-
This file models `validateJSONSchema` of `validate.go`: the walk of a decoded value along a
schema made of `type`, `required` and `properties`.

A schema is embedded as the decoded map that the code walks, and as a tree of its keywords
with the meaning of each. The type `integer` is checked as `number` is, and `required` asks
for an object.
-/

import MqConnector.Documents

namespace MqConnector

/-! ### The walk -/

section Walk

variable {Number : Type} (quote : String → String)

/-- The name of a decoded value's type, as `%T` prints it. -/
def Value.typeName : Value Number → String
  | .null => "<nil>"
  | .bool _ => "bool"
  | .number _ => "float64"
  | .string _ => "string"
  | .array _ => "[]interface {}"
  | .object _ => "map[string]interface {}"

/-- Whether a value is of the expected type. -/
def checkType (value : Value Number) (expected : String) : Except String Unit :=
  if expected = "object" then
    match value with
    | .object _ => .ok ()
    | _ => .error ("expected object, got " ++ value.typeName)
  else if expected = "array" then
    match value with
    | .array _ => .ok ()
    | _ => .error ("expected array, got " ++ value.typeName)
  else if expected = "string" then
    match value with
    | .string _ => .ok ()
    | _ => .error ("expected string, got " ++ value.typeName)
  else if expected = "number" ∨ expected = "integer" then
    match value with
    | .number _ => .ok ()
    | _ => .error ("expected number, got " ++ value.typeName)
  else if expected = "boolean" then
    match value with
    | .bool _ => .ok ()
    | _ => .error ("expected boolean, got " ++ value.typeName)
  else .ok ()

/-- The `type` keyword of `walkSchema`. -/
def walkType (value : Value Number) (schema : DataMap Number) : Except String Unit :=
  match schema.lookup "type" with
  | some (.string expected) => checkType value expected
  | _ => .ok ()

/-- The name that an entry of `required` asks for: the empty one when it is no string. -/
def Value.requiredName : Value Number → String
  | .string name => name
  | _ => ""

/-- The loop of `walkSchema` over the required names. -/
def walkNames (fields : DataMap Number) : List (Value Number) → Except String Unit
  | [] => .ok ()
  | name :: names =>
    if (fields.lookup name.requiredName).isNone then
      .error ("required field " ++ quote name.requiredName ++ " missing")
    else walkNames fields names

/-- The `required` keyword of `walkSchema`. -/
def walkRequired (value : Value Number) (schema : DataMap Number) : Except String Unit :=
  match schema.lookup "required" with
  | some (.array names) =>
    match value with
    | .object fields => walkNames quote fields names
    | _ => .error "expected object"
  | _ => .ok ()

theorem sizeOf_lt_of_lookup {fields : DataMap Number} {name : String} {value : Value Number}
    (found : fields.lookup name = some value) : sizeOf value < sizeOf fields := by
  induction fields with
  | nil => cases found
  | cons field rest hypothesis =>
    obtain ⟨other, held⟩ := field
    rw [List.lookup_cons] at found
    rw [List.cons.sizeOf_spec, Prod.mk.sizeOf_spec]
    split at found
    · injection found with same
      rw [same]
      omega
    · have := hypothesis found
      omega

mutual

/-- `walkSchema`; the properties are visited in the order of their entries, which the code leaves open. -/
def walkSchema (value : Value Number) (schema : DataMap Number) : Except String Unit :=
  match walkType value schema with
  | .error err => .error err
  | .ok () =>
    match walkRequired quote value schema with
    | .error err => .error err
    | .ok () =>
      match _ : schema.lookup "properties" with
      | some (.object properties) =>
        match value with
        | .object fields => walkProperties fields properties
        | _ => .ok ()
      | _ => .ok ()
termination_by sizeOf schema
decreasing_by
  have smaller := sizeOf_lt_of_lookup ‹_›
  rw [Value.object.sizeOf_spec] at smaller
  omega

/-- The loop of `walkSchema` over the properties. -/
def walkProperties (fields : DataMap Number) : DataMap Number → Except String Unit
  | [] => .ok ()
  | (name, .object schema) :: properties =>
    match fields.lookup name with
    | some value =>
      match walkSchema value schema with
      | .error err => .error ("field " ++ quote name ++ ": " ++ err)
      | .ok () => walkProperties fields properties
    | none => walkProperties fields properties
  | _ :: properties => walkProperties fields properties
termination_by properties => sizeOf properties

end

/-- What `json.Unmarshal` reads from a message and from a schema's content. -/
structure SchemaDecoders (Number : Type) where
  unmarshalAny : Bytes → Except String (Value Number)
  unmarshalMap : String → Except String (Option (DataMap Number))

/-- `validateJSONSchema`; a nil schema has no keywords. -/
def validateJSONSchema (decoders : SchemaDecoders Number) (message : Bytes) (schemaContent : String) :
    Except String Unit :=
  match decoders.unmarshalAny message with
  | .error err => .error ("invalid JSON: " ++ err)
  | .ok data =>
    match decoders.unmarshalMap schemaContent with
    | .error err => .error ("invalid schema: " ++ err)
    | .ok schema => walkSchema quote data (schema.getD [])

end Walk

/-! ### Schemas of three keywords -/

/-- The types of the documented subset. -/
inductive JsonType
  | object
  | array
  | string
  | number
  | integer
  | boolean
  | null
  deriving DecidableEq

def JsonType.name : JsonType → String
  | .object => "object"
  | .array => "array"
  | .string => "string"
  | .number => "number"
  | .integer => "integer"
  | .boolean => "boolean"
  | .null => "null"

/-- A schema: its keywords, each of which may be absent. -/
inductive JsonSchema
  | mk (type : Option JsonType) (required : Option (List String)) (properties : Option (List (String × JsonSchema)))

namespace JsonSchema

variable {Number : Type}

def type : JsonSchema → Option JsonType
  | .mk type _ _ => type

def required : JsonSchema → Option (List String)
  | .mk _ required _ => required

def properties : JsonSchema → Option (List (String × JsonSchema))
  | .mk _ _ properties => properties

mutual

/-- A schema as a document. -/
def document : JsonSchema → DataMap Number
  | .mk type required properties =>
    (type.toList.map fun type => ("type", .string type.name)) ++
      ((required.toList.map fun names => ("required", .array (names.map .string))) ++ propertiesEntry properties)

def propertiesEntry : Option (List (String × JsonSchema)) → DataMap Number
  | none => []
  | some listed => [("properties", .object (propertyDocuments listed))]

def propertyDocuments : List (String × JsonSchema) → DataMap Number
  | [] => []
  | (name, schema) :: listed => (name, .object schema.document) :: propertyDocuments listed

end

/-- What a schema says of a value, given what `type` and `required` say: a listed property
constrains the object that has it. -/
inductive Holds (typed : JsonType → Value Number → Prop) (demands : List String → Value Number → Prop) :
    JsonSchema → Value Number → Prop
  | intro {schema : JsonSchema} {value : Value Number} (type : ∀ type ∈ schema.type, typed type value)
    (required : ∀ names ∈ schema.required, demands names value)
    (properties : ∀ listed ∈ schema.properties, ∀ fields, value = .object fields →
      ∀ property ∈ listed, ∀ inner, fields.lookup property.1 = some inner →
        Holds typed demands property.2 inner) :
    Holds typed demands schema value

/-- The type null is named nowhere in a schema. -/
inductive NullFree : JsonSchema → Prop
  | intro {schema : JsonSchema} (type : schema.type ≠ some .null)
    (properties : ∀ listed ∈ schema.properties, ∀ property ∈ listed, NullFree property.2) : NullFree schema

end JsonSchema

/-- What JSON Schema's `type` says, where this tells the numbers with zero fractional part. -/
def JsonType.Matches {Number : Type} (isInteger : Number → Prop) : JsonType → Value Number → Prop
  | .object, .object _ => True
  | .array, .array _ => True
  | .string, .string _ => True
  | .number, .number _ => True
  | .integer, .number value => isInteger value
  | .boolean, .bool _ => True
  | .null, .null => True
  | _, _ => False

section Rules

variable {Number : Type}

/-- The object has all the names. -/
def HasNames (names : List String) (value : Value Number) : Prop :=
  ∃ fields, value = .object fields ∧ ∀ name ∈ names, (fields.lookup name).isSome

/-- JSON Schema's rules for the three keywords: `required` constrains only objects. -/
def JsonSchema.Valid (isInteger : Number → Prop) (schema : JsonSchema) (value : Value Number) : Prop :=
  schema.Holds (JsonType.Matches isInteger)
    (fun names value => (∃ fields, value = .object fields) → HasNames names value) value

/-- The rules that the walk decides: every number is an `integer`, and `required` asks for an object. -/
def JsonSchema.Admits (schema : JsonSchema) (value : Value Number) : Prop :=
  schema.Holds (JsonType.Matches fun _ => True) HasNames value

end Rules

/-! ### The walk decides the rules -/

section Decides

variable {Number : Type} {quote : String → String} {value : Value Number} {schema : JsonSchema}

theorem document_type (schema : JsonSchema) :
    (schema.document : DataMap Number).lookup "type" = schema.type.map fun type => .string type.name := by
  obtain ⟨type, required, properties⟩ := schema
  rw [JsonSchema.document]
  cases type <;> cases required <;> cases properties <;>
    simp [JsonSchema.type, JsonSchema.propertiesEntry, List.lookup_cons]

theorem document_required (schema : JsonSchema) :
    (schema.document : DataMap Number).lookup "required" =
      schema.required.map fun names => .array (names.map .string) := by
  obtain ⟨type, required, properties⟩ := schema
  rw [JsonSchema.document]
  cases type <;> cases required <;> cases properties <;>
    simp [JsonSchema.required, JsonSchema.propertiesEntry, List.lookup_cons]

theorem document_properties (schema : JsonSchema) :
    (schema.document : DataMap Number).lookup "properties" =
      schema.properties.map fun listed => .object (JsonSchema.propertyDocuments listed) := by
  obtain ⟨type, required, properties⟩ := schema
  rw [JsonSchema.document]
  cases type <;> cases required <;> cases properties <;>
    simp [JsonSchema.properties, JsonSchema.propertiesEntry, List.lookup_cons]

theorem checkType_of_matches {type : JsonType} (typed : type.Matches (fun _ => True) value) :
    checkType value type.name = .ok () := by
  cases type <;> cases value <;> simp_all [JsonType.Matches, JsonType.name, checkType]

theorem matches_of_checkType {type : JsonType} (known : type ≠ .null)
    (accepted : checkType value type.name = .ok ()) : type.Matches (fun _ => True) value := by
  cases type <;> cases value <;> simp_all [JsonType.Matches, JsonType.name, checkType]

theorem walkType_document (value : Value Number) (schema : JsonSchema) :
    walkType value schema.document = .ok () ↔ ∀ type ∈ schema.type, checkType value type.name = .ok () := by
  rw [walkType, document_type]
  cases schema.type <;> simp

theorem walkNames_strings (fields : DataMap Number) (names : List String) :
    walkNames quote fields (names.map .string) = .ok () ↔ ∀ name ∈ names, (fields.lookup name).isSome := by
  induction names with
  | nil => simp [walkNames]
  | cons name names hypothesis =>
    rw [List.map_cons, walkNames, Value.requiredName, List.forall_mem_cons, ← hypothesis]
    cases fields.lookup name <;> simp

theorem walkRequired_document (value : Value Number) (schema : JsonSchema) :
    walkRequired quote value schema.document = .ok () ↔ ∀ names ∈ schema.required, HasNames names value := by
  rw [walkRequired, document_required]
  cases schema.required with
  | none => simp
  | some names =>
    cases value <;> simp [HasNames, walkNames_strings]

theorem walkProperties_documents (fields : DataMap Number) (listed : List (String × JsonSchema)) :
    walkProperties quote fields (JsonSchema.propertyDocuments listed) = .ok () ↔
      ∀ property ∈ listed, ∀ inner, fields.lookup property.1 = some inner →
        walkSchema quote inner property.2.document = .ok () := by
  induction listed with
  | nil => simp [JsonSchema.propertyDocuments, walkProperties]
  | cons property listed hypothesis =>
    obtain ⟨name, schema⟩ := property
    rw [JsonSchema.propertyDocuments, walkProperties, List.forall_mem_cons, ← hypothesis]
    cases fields.lookup name with
    | none => simp
    | some inner =>
      cases checked : walkSchema quote inner schema.document <;> simp [checked]

theorem walkSchema_document (value : Value Number) (schema : JsonSchema) :
    walkSchema quote value schema.document = .ok () ↔
      (∀ type ∈ schema.type, checkType value type.name = .ok ()) ∧
      (∀ names ∈ schema.required, HasNames names value) ∧
      ∀ listed ∈ schema.properties, ∀ fields, value = .object fields →
        ∀ property ∈ listed, ∀ inner, fields.lookup property.1 = some inner →
          walkSchema quote inner property.2.document = .ok () := by
  rw [walkSchema, ← walkType_document, ← @walkRequired_document Number quote]
  cases walkType value schema.document with
  | error err => simp
  | ok accepted =>
    cases walkRequired quote value schema.document with
    | error err => simp
    | ok accepted =>
      have entry := @document_properties Number schema
      simp only [true_and]
      split
      · rename_i found
        obtain ⟨listed, isListed, same⟩ := Option.map_eq_some_iff.mp (entry.symm.trans found)
        injection same with same
        rw [isListed, ← same]
        cases value <;> simp [walkProperties_documents]
      · rename_i unlisted
        cases isListed : schema.properties with
        | none => simp
        | some listed =>
          rw [isListed] at entry
          exact absurd entry (unlisted _)

/-- The stage accepts what the schema admits. -/
theorem walkSchema_of_admits (admits : schema.Admits value) :
    walkSchema quote value schema.document = .ok () := by
  induction admits with
  | intro type required properties hypothesis =>
    rw [walkSchema_document]
    exact ⟨fun named member => checkType_of_matches (type named member), required, hypothesis⟩

/-- What the stage accepts without a null is admitted. -/
theorem admits_of_walkSchema (nullFree : schema.NullFree)
    (accepted : walkSchema quote value schema.document = .ok ()) :
    schema.Admits value := by
  induction nullFree generalizing value with
  | intro known properties hypothesis =>
    rw [walkSchema_document] at accepted
    obtain ⟨type, required, inner⟩ := accepted
    refine .intro (fun named member => matches_of_checkType ?_ (type named member)) required ?_
    · rintro rfl
      exact known member
    · intro listed member fields isObject property among held found
      exact hypothesis listed member property among (inner listed member fields isObject property among held found)

theorem validateJSONSchema_eq {decoders : SchemaDecoders Number} {message : Bytes} {schemaContent : String}
    (decoded : decoders.unmarshalAny message = .ok value)
    (parsed : decoders.unmarshalMap schemaContent = .ok (some schema.document)) :
    validateJSONSchema quote decoders message schemaContent = walkSchema quote value schema.document := by
  simp [validateJSONSchema, decoded, parsed]

/-- `validateJSONSchema` accepts every value that meets the rules of a schema, and by a schema that does not name the
type null no other. -/
theorem json_schema_decides (quote : String → String) (decoders : SchemaDecoders Number) (message : Bytes)
    (schemaContent : String) (value : Value Number) (schema : JsonSchema)
    (decoded : decoders.unmarshalAny message = .ok value)
    (parsed : decoders.unmarshalMap schemaContent = .ok (some schema.document)) :
    (schema.Admits value → validateJSONSchema quote decoders message schemaContent = .ok ()) ∧
      (schema.NullFree → validateJSONSchema quote decoders message schemaContent = .ok () → schema.Admits value) := by
  rw [validateJSONSchema_eq decoded parsed]
  exact ⟨walkSchema_of_admits, admits_of_walkSchema⟩

end Decides

/-- Decoders that read one message and one schema. -/
def documentDecoders {Number : Type} (value : Value Number) (schema : JsonSchema) : SchemaDecoders Number where
  unmarshalAny _ := .ok value
  unmarshalMap _ := .ok (some schema.document)

/-- An order: its `id` is required, and it is an integer. -/
def orderSchema : JsonSchema :=
  .mk (some .object) (some ["id"]) (some [("id", .mk (some .integer) none none)])

theorem orderSchema_nullFree : orderSchema.NullFree := by
  refine .intro (by simp [JsonSchema.type, orderSchema]) ?_
  simp only [orderSchema, JsonSchema.properties, Option.mem_some_iff]
  rintro listed rfl property (_ | ⟨_, ⟨⟩⟩)
  exact .intro (by simp [JsonSchema.type]) (by simp [JsonSchema.properties])

/-- An order whose id is a text is refused by the schema and by the stage. -/
theorem json_schema_decides_order :
    ¬ orderSchema.Admits (.object [("id", .string "7")] : Value Rat) ∧
      validateJSONSchema id (documentDecoders (.object [("id", .string "7")] : Value Rat) orderSchema) [] "" ≠ .ok () := by
  have decides := json_schema_decides id (documentDecoders (.object [("id", .string "7")] : Value Rat) orderSchema) [] ""
    _ orderSchema rfl rfl
  have textual : ¬ orderSchema.Admits (.object [("id", .string "7")] : Value Rat) := by
    rintro ⟨-, -, properties⟩
    obtain ⟨type, -, -⟩ := properties _ rfl _ rfl _ List.mem_cons_self (.string "7") rfl
    exact type .integer rfl
  exact ⟨textual, fun accepted => textual (decides.2 orderSchema_nullFree accepted)⟩

/-- A number with a fractional part passes as an integer, and a text is rejected for not having a field. -/
theorem json_schema_rules_differ :
    (validateJSONSchema id (documentDecoders (.number (3 / 2) : Value Rat) (.mk (some .integer) none none)) [] "" =
        .ok () ∧
      ¬ (JsonSchema.mk (some .integer) none none).Valid (fun number : Rat => number.den = 1) (.number (3 / 2))) ∧
    validateJSONSchema id (documentDecoders (.string "a" : Value Rat) (.mk none (some ["id"]) none)) [] "" =
        .error "expected object" ∧
      (JsonSchema.mk none (some ["id"]) none).Valid (fun number : Rat => number.den = 1) (.string "a") := by
  refine ⟨⟨?_, ?_⟩, ?_, ?_⟩
  · rw [validateJSONSchema_eq rfl rfl, walkSchema_document]
    refine ⟨?_, nofun, nofun⟩
    rintro type ⟨⟩
    rfl
  · rintro ⟨type, -, -⟩
    have whole : (3 / 2 : Rat).den = 1 := type .integer rfl
    exact absurd whole (by decide +kernel)
  · have asked : walkRequired id (.string "a" : Value Rat) (JsonSchema.document (.mk none (some ["id"]) none)) =
        .error "expected object" := by
      rw [walkRequired, document_required]
      rfl
    have untyped : walkType (.string "a" : Value Rat) (JsonSchema.document (.mk none (some ["id"]) none)) = .ok () := by
      rw [walkType, document_type]
      rfl
    rw [validateJSONSchema_eq rfl rfl, walkSchema, untyped, asked]
  · refine .intro (by simp [JsonSchema.type]) ?_ (by simp [JsonSchema.properties])
    rintro names - ⟨fields, isObject⟩
    cases isObject

end MqConnector
