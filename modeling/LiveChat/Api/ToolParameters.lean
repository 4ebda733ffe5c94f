import LiveChat.Foundation.Attempts
import LiveChat.Api.Tools

/-!
# What the tool parameter validator accepts

`ValidParameters` states the schema that `validate_tool_parameters` is there to enforce, and
`Validates` that it returns exactly such parameters and raises `ValueError` for all others.
The membership test of a property's type raises `TypeError` when the type is a list or an
object; the theorem says that this is the only way to miss the contract.
-/

set_option autoImplicit false

namespace LiveChat.Api.Tools

open LiveChat.Foundation
open LiveChat.Foundation.Attempts

/-! ## The contract -/

structure ValidProperty (propSchema : Json.Object) : Prop where
  type : ∃ name ∈ VALID_PARAM_TYPES, propSchema.lookup "type" = some (.string name)
  enum : ∀ value, propSchema.lookup "enum" = some value → ∃ item rest, value = .array (item :: rest)

def ValidSchema (schema : Json) : Prop :=
  ∃ propSchema, schema = .object propSchema ∧ ValidProperty propSchema

def NamesProperty (properties : Json.Object) (entry : Json) : Prop :=
  ∃ name, entry = .string name ∧ (properties.lookup name).isSome = true

structure ValidParameters (parameters : Json.Object) : Prop where
  type : parameters.lookup "type" = some (.string "object")
  contents : ∃ properties required,
    (parameters.lookup "properties").getD (.object []) = .object properties ∧
      (parameters.lookup "required").getD (.array []) = .array required ∧
      (∀ entry ∈ properties, ValidSchema entry.2) ∧
      ∀ entry ∈ required, NamesProperty properties entry

/-- Valid parameters are returned unchanged, and all others raise `ValueError`. -/
structure Validates (parameters : Json.Object) : Prop where
  accepts : ValidParameters parameters → validateToolParameters parameters = .ok parameters
  refuses : ¬ ValidParameters parameters →
    ∃ message, validateToolParameters parameters = .error (.valueError message)

/-- A type that no set can be asked for: a list or an object, and not an empty one. -/
inductive Unhashable : Json → Prop where
  | list (item : Json) (rest : List Json) : Unhashable (.array (item :: rest))
  | dict (member : String × Json) (rest : Json.Object) : Unhashable (.object (member :: rest))

/-- The first property whose schema is not valid has no such type. -/
def TypesHashable (parameters : Json.Object) : Prop :=
  parameters.lookup "type" = some (.string "object") →
    ∀ front name propSchema back propType,
      (parameters.lookup "properties").getD (.object []) =
          .object (front ++ (name, .object propSchema) :: back) →
        (∀ entry ∈ front, ValidSchema entry.2) → propSchema.lookup "type" = some propType →
          ¬ Unhashable propType

/-! ## The checks of one entry -/

theorem isTruthy_of_unhashable {propType : Json} (unhashable : Unhashable propType) :
    propType.isTruthy = true := by
  cases unhashable <;> rfl

theorem mem_validTypes {propType : Json} :
    propType ∈ VALID_PARAM_TYPES.map Json.string ↔
      ∃ name ∈ VALID_PARAM_TYPES, propType = .string name := by
  simp only [List.mem_map, eq_comm]

/-- What the check of a property comes to. -/
inductive Checked (propName : String) : Json → Except ParameterError Unit → Prop where
  | valid {propSchema : Json.Object} (valid : ValidProperty propSchema) :
      Checked propName (.object propSchema) (.ok ())
  | refused {schema : Json} (message : String) (invalid : ¬ ValidSchema schema)
      (hashable : ∀ propSchema propType, schema = .object propSchema →
        propSchema.lookup "type" = some propType → ¬ Unhashable propType) :
      Checked propName schema (.error (.valueError message))
  | raised {propSchema : Json.Object} {propType : Json} (message : String)
      (here : propSchema.lookup "type" = some propType) (unhashable : Unhashable propType) :
      Checked propName (.object propSchema) (.error (.typeError message))

theorem validSchema_object {propSchema : Json.Object} :
    ValidSchema (.object propSchema) ↔ ValidProperty propSchema := by
  constructor
  · rintro ⟨other, same, valid⟩
    cases same
    exact valid
  · intro valid
    exact ⟨propSchema, rfl, valid⟩

theorem lookup_of_getD {members : Json.Object} {name : String} {value : Json}
    (found : (members.lookup name).getD .null = value) (present : value ≠ .null) :
    members.lookup name = some value := by
  cases here : members.lookup name with
  | none =>
      rw [here] at found
      exact absurd found.symm present
  | some other => rw [← found, here, Option.getD_some]

theorem not_validSchema_of_unhashable {propSchema : Json.Object} {propType : Json}
    (here : propSchema.lookup "type" = some propType) (unhashable : Unhashable propType) :
    ¬ ValidSchema (.object propSchema) := by
  intro valid
  obtain ⟨name, _, named⟩ := (validSchema_object.mp valid).type
  cases Option.some.inj (here.symm.trans named)
  cases unhashable

theorem checked_property (propName : String) (schema : Json) :
    Checked propName schema (checkProperty propName schema) := by
  have refused : ∀ {propSchema : Json.Object} (message : String),
      ¬ ValidProperty propSchema →
      (∀ propType, propSchema.lookup "type" = some propType → ¬ Unhashable propType) →
      Checked propName (.object propSchema) (.error (.valueError message)) := by
    intro propSchema message invalid hashable
    refine .refused message (fun valid => invalid (validSchema_object.mp valid)) ?_
    intro _ propType same
    cases same
    exact hashable propType
  cases schema with
  | object propSchema =>
      simp only [checkProperty]
      split
      · rename_i falsy
        refine refused _ (fun valid => ?_) fun propType here unhashable => ?_
        · obtain ⟨name, listed, same⟩ := valid.type
          have named : name ≠ "" := (by decide : ∀ name ∈ VALID_PARAM_TYPES, name ≠ "") name listed
          simp [same, Json.isTruthy, named] at falsy
        · simp [here, isTruthy_of_unhashable unhashable] at falsy
      · rename_i truthy
        split
        · rename_i items found
          have here := lookup_of_getD found (by simp)
          cases items with
          | nil => simp [here, Json.isTruthy] at truthy
          | cons item rest => exact .raised _ here (.list item rest)
        · rename_i members found
          have here := lookup_of_getD found (by simp)
          cases members with
          | nil => simp [here, Json.isTruthy] at truthy
          | cons member rest => exact .raised _ here (.dict member rest)
        · rename_i noList noDict
          have hashable : ∀ propType, propSchema.lookup "type" = some propType →
              ¬ Unhashable propType := by
            intro propType here unhashable
            cases unhashable with
            | list item rest => exact noList _ (by rw [here, Option.getD_some])
            | dict member rest => exact noDict _ (by rw [here, Option.getD_some])
          split
          · rename_i unsupported
            refine refused _ (fun valid => ?_) hashable
            obtain ⟨name, listed, same⟩ := valid.type
            exact unsupported (mem_validTypes.mpr ⟨name, listed, by rw [same, Option.getD_some]⟩)
          · rename_i supported
            obtain ⟨name, listed, found⟩ := mem_validTypes.mp (not_not.mp supported)
            have here := lookup_of_getD found (by simp)
            split
            · rename_i absent
              refine .valid ⟨⟨name, listed, here⟩, fun value there => ?_⟩
              simp [absent] at there
            · rename_i item rest present
              refine .valid ⟨⟨name, listed, here⟩, fun value there => ⟨item, rest, ?_⟩⟩
              exact (Option.some.inj (present.symm.trans there)).symm
            · rename_i value noList present
              refine refused _ (fun valid => ?_) hashable
              obtain ⟨item, rest, same⟩ := valid.enum value present
              exact noList item rest same
  | _ =>
      refine .refused _ ?_ ?_
      · rintro ⟨_, same, _⟩
        cases same
      · intro _ _ same
        cases same

/-! ## The whole schema -/

theorem checked_required (properties : Json.Object) (entry : Json) :
    (NamesProperty properties entry ∧ checkRequired properties entry = .ok ()) ∨
      (¬ NamesProperty properties entry ∧
        ∃ message, checkRequired properties entry = .error (.valueError message)) := by
  cases entry with
  | string name =>
      by_cases known : (properties.lookup name).isSome = true
      · exact Or.inl ⟨⟨name, rfl, known⟩, if_pos known⟩
      · refine Or.inr ⟨?_, _, if_neg known⟩
        rintro ⟨other, same, found⟩
        cases same
        exact known found
  | _ =>
      refine Or.inr ⟨?_, _, rfl⟩
      rintro ⟨_, same, _⟩
      cases same

theorem checkRequired_ok {properties : Json.Object} {entry : Json} :
    checkRequired properties entry = .ok () ↔ NamesProperty properties entry := by
  rcases checked_required properties entry with ⟨names, passed⟩ | ⟨nameless, message, refused⟩
  · exact ⟨fun _ => names, fun _ => passed⟩
  · rw [refused]
    refine ⟨fun passed => ?_, fun names => absurd names nameless⟩
    cases passed

theorem checkProperty_ok {propName : String} {schema : Json} :
    checkProperty propName schema = .ok () ↔ ValidSchema schema := by
  have checked := checked_property propName schema
  generalize checkProperty propName schema = outcome at checked ⊢
  constructor
  · intro passed
    rw [passed] at checked
    cases checked with
    | valid valid => exact validSchema_object.mpr valid
  · intro valid
    cases checked with
    | valid _ => rfl
    | refused message invalid hashable => exact absurd valid invalid
    | raised message here unhashable =>
        exact absurd valid (not_validSchema_of_unhashable here unhashable)

inductive Outcome (parameters : Json.Object) : Prop where
  | accepted (valid : ValidParameters parameters)
      (outcome : validateToolParameters parameters = .ok parameters)
  | refused (invalid : ¬ ValidParameters parameters) (hashable : TypesHashable parameters)
      (message : String)
      (outcome : validateToolParameters parameters = .error (.valueError message))
  | stumbled (invalid : ¬ ValidParameters parameters) (unhashable : ¬ TypesHashable parameters)
      (message : String)
      (outcome : validateToolParameters parameters = .error (.typeError message))

/-- No property at all stumbles, when none before the first invalid one can. -/
theorem hashable_of_properties {parameters properties : Json.Object}
    (found : (parameters.lookup "properties").getD (.object []) = .object properties)
    (valid : ∀ entry ∈ properties, ValidSchema entry.2) : TypesHashable parameters := by
  intro _ front name propSchema back propType listed _ here unhashable
  cases found.symm.trans listed
  exact not_validSchema_of_unhashable here unhashable
    (valid (name, .object propSchema) (List.mem_append_right _ List.mem_cons_self))

theorem outcome_of_property {parameters : Json.Object} {front back : Json.Object} {name : String}
    {schema : Json} {refusal : ParameterError}
    (typed : parameters.lookup "type" = some (.string "object"))
    (found : (parameters.lookup "properties").getD (.object []) =
      .object (front ++ (name, schema) :: back))
    (before : ∀ entry ∈ front, ValidSchema entry.2)
    (failed : checkProperty name schema = .error refusal)
    (outcome : validateToolParameters parameters = .error refusal) : Outcome parameters := by
  have invalid : ¬ ValidParameters parameters := by
    intro valid
    obtain ⟨properties, _, listed, _, schemas, _⟩ := valid.contents
    cases listed.symm.trans found
    have passed := (@checkProperty_ok name schema).mpr
      (schemas (name, schema) (List.mem_append_right _ List.mem_cons_self))
    cases passed.symm.trans failed
  have checked := checked_property name schema
  rw [failed] at checked
  cases checked with
  | refused message unfit hashable =>
      refine .refused invalid ?_ message outcome
      intro _ front' name' propSchema back' propType listed before' here unhashable
      have same : (name, schema) = (name', .object propSchema) :=
        first_unique (fun entry : String × Json => ValidSchema entry.2)
          (Json.object.inj (found.symm.trans listed)) before unfit before'
          (not_validSchema_of_unhashable here unhashable)
      exact hashable propSchema propType (Prod.mk.inj same).2 here unhashable
  | raised message here unhashable =>
      refine .stumbled invalid (fun hashable => ?_) message outcome
      exact hashable typed front name _ back _ found before here unhashable

theorem outcome_of_typed {parameters : Json.Object}
    (typed : parameters.lookup "type" = some (.string "object")) : Outcome parameters := by
  cases found : (parameters.lookup "properties").getD (.object []) with
  | object properties =>
      cases checked : properties.forM fun entry => checkProperty entry.1 entry.2 with
      | error refusal =>
          obtain ⟨front, ⟨name, schema⟩, back, rfl, failed, passed⟩ := forM_eq_error.mp checked
          refine outcome_of_property typed found ?_ failed ?_
          · exact fun entry member => checkProperty_ok.mp (passed entry member)
          · simp only [validateToolParameters, typed, found, checked, ne_eq, not_true, if_false]
      | ok _ =>
          have schemas : ∀ entry ∈ properties, ValidSchema entry.2 :=
            fun entry member => checkProperty_ok.mp (forM_eq_ok.mp checked entry member)
          have hashable := hashable_of_properties found schemas
          cases listed : (parameters.lookup "required").getD (.array []) with
          | array required =>
              cases named : required.forM (checkRequired properties) with
              | error refusal =>
                  obtain ⟨front, entry, back, rfl, failed, _⟩ := forM_eq_error.mp named
                  have outcome : validateToolParameters parameters = .error refusal := by
                    simp only [validateToolParameters, typed, found, checked, listed, named,
                      ne_eq, not_true, if_false]
                  rcases checked_required properties entry with
                    ⟨_, passed⟩ | ⟨nameless, message, refused⟩
                  · cases passed.symm.trans failed
                  · cases refused.symm.trans failed
                    refine .refused (fun valid => ?_) hashable message outcome
                    obtain ⟨_, _, found', listed', _, names⟩ := valid.contents
                    cases found.symm.trans found'
                    cases listed.symm.trans listed'
                    exact nameless
                      (names entry (List.mem_append_right _ List.mem_cons_self))
              | ok _ =>
                  refine .accepted ⟨typed, properties, required, found, listed, schemas, ?_⟩ ?_
                  · exact fun entry member => checkRequired_ok.mp (forM_eq_ok.mp named entry member)
                  · simp only [validateToolParameters, typed, found, checked, listed, named, ne_eq,
                      not_true, if_false]
          | _ =>
              refine .refused (fun valid => ?_) hashable
                "parameters.required must be a list of strings." ?_
              · obtain ⟨_, required, _, there, _⟩ := valid.contents
                cases listed.symm.trans there
              · simp only [validateToolParameters, typed, found, checked, listed, ne_eq,
                  not_true, if_false]
  | _ =>
      refine .refused (fun valid => ?_) ?_ "parameters.properties must be a JSON object." ?_
      · obtain ⟨properties, _, there, _⟩ := valid.contents
        cases found.symm.trans there
      · intro _ front name propSchema back propType there
        cases found.symm.trans there
      · simp only [validateToolParameters, typed, found, ne_eq, not_true, if_false]

theorem validate_outcome (parameters : Json.Object) : Outcome parameters := by
  by_cases typed : parameters.lookup "type" = some (.string "object")
  · exact outcome_of_typed typed
  · exact .refused (fun valid => typed valid.type) (fun here => absurd here typed)
      "parameters.type must be \"object\"." (if_pos typed)

/-- The validator keeps its contract exactly on the parameters whose first invalid property does
not have a list or an object for its type. -/
theorem validates_iff (parameters : Json.Object) :
    Validates parameters ↔ TypesHashable parameters := by
  cases validate_outcome parameters with
  | accepted valid outcome =>
      obtain ⟨properties, _, found, _, schemas, _⟩ := valid.contents
      refine ⟨fun _ => hashable_of_properties found schemas, fun _ => ⟨fun _ => outcome, ?_⟩⟩
      exact fun invalid => absurd valid invalid
  | refused invalid hashable message outcome =>
      refine ⟨fun _ => hashable, fun _ => ⟨fun valid => absurd valid invalid, ?_⟩⟩
      exact fun _ => ⟨message, outcome⟩
  | stumbled invalid unhashable message outcome =>
      refine ⟨fun validates => ?_, fun hashable => absurd hashable unhashable⟩
      obtain ⟨other, refused⟩ := validates.refuses invalid
      cases outcome.symm.trans refused

/-- One property whose type is a list: `TypeError`, where a 422 was due. -/
theorem validates_fails :
    ¬ Validates [("type", .string "object"),
      ("properties", .object [("city", .object [("type", .array [.string "string"])])])] := by
  intro validates
  obtain ⟨message, refused⟩ := validates.refuses fun valid => by
    obtain ⟨_, _, found, _, schemas, _⟩ := valid.contents
    cases found
    exact not_validSchema_of_unhashable rfl (.list _ _) (schemas _ List.mem_cons_self)
  have stumbled : validateToolParameters [("type", .string "object"),
      ("properties", .object [("city", .object [("type", .array [.string "string"])])])] =
      .error (.typeError "unhashable type: 'list'") := by rfl
  cases stumbled.symm.trans refused

end LiveChat.Api.Tools
