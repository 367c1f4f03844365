import ChangelogViews.Proofs.Schema.Grammar

/-!
# Where documents are at fault

The places of a document that are looked at, each with what is wanted and what stands there, from the top
down and in the order of the members (`schemaPlaces`). A document that is no schema is refused with the
issues of all these places in this order (`checkSchemaIn_error_iff`), and each place is where its way from
the top of the document leads (`at?_of_schemaPlaces`).
-/

namespace ChangelogViews

variable {α β : Type}

/-- The value one step into a value. -/
def Value.step? : Key → Value → Option Value
  | .member name, v => v.get? name
  | .index i, v => v.items?.bind (·[i]?)

/-- The value that a way leads to. -/
def Value.at? (v : Value) : List Key → Option Value
  | [] => some v
  | key :: rest => (v.step? key).bind (·.at? rest)

/-- What is wanted at a place. A field is wanted with some room below it. -/
inductive Want where
  | schema
  | schemaFields
  | field (room : Nat)
  | name
  | type
  | description
  | fields
  deriving DecidableEq, Repr

/-- A place of a document: the way to it, what is wanted, and what stands there. -/
structure Position where
  path : List Key
  want : Want
  found : Option Value

/-- What is wrong with a value where a text is wanted. -/
def textFault : Value → Option Problem
  | .text _ => none
  | .bytes data =>
    match Text.decodeUtf8 data with
    | .ok _ => none
    | .error _ => some .notUtf8
  | _ => some .notText

/-- What is wrong with what stands at a place, and below which marks it is reported. -/
def Want.faults : Want → Option Value → List (List Key × Problem)
  | .schema, some (.object _) => []
  | .schema, _ => [([], .notObject "FirestoreSchema")]
  | .schemaFields, none => []
  | .schemaFields, some v => if v.items?.isSome then [] else [([], .notSequence)]
  | .field _, some .cycle => [([], .cyclic)]
  | .field 0, _ => [([], .tooDeep)]
  | .field _, some (.object _) => []
  | .field _, _ => [([], .notObject "Field")]
  | .name, none => []
  | .name, some v => (textFault v).toList.map fun problem => ([], problem)
  | .type, none => [([], .missing)]
  | .type, some v => (textFault v).toList.flatMap fun problem =>
      [([.member "str-enum[FieldType]"], .notAmong (FieldKind.all.map (·.name))),
        ([.member "str"], problem)]
  | .description, none => []
  | .description, some .null => []
  | .description, some v => (textFault v).toList.map fun problem => ([], problem)
  | .fields, none => []
  | .fields, some .null => []
  | .fields, some v => if v.items?.isSome then [] else [([], .notSequence)]

/-- The issues of a place. -/
def Position.issues (p : Position) : List Issue :=
  (p.want.faults p.found).map fun (marks, problem) => ⟨p.path ++ marks, problem⟩

/-- The places of the items of a list, where a list stands. -/
def itemPlaces (below : List Key → Value → List Position) (path : List Key) (found : Option Value) :
    List Position :=
  ((found.bind Value.items?).getD []).zipIdx.flatMap fun (item, i) => below (path ++ [.index i]) item

/-- The places of a value, unless it is absent or null. -/
def valuePlaces (below : List Key → Value → List Position) (path : List Key) : Option Value → List Position
  | none => []
  | some .null => []
  | some v => below path v

/-- The places in what should be a field. -/
def fieldPlaces : Nat → List Key → Value → List Position
  | 0, path, v => [⟨path, .field 0, some v⟩]
  | room + 1, path, v => ⟨path, .field (room + 1), some v⟩ ::
    match v with
    | .object members =>
      ⟨path ++ [.member "name"], .name, member? members "name"⟩ ::
      ⟨path ++ [.member "type"], .type, member? members "type"⟩ ::
      ⟨path ++ [.member "description"], .description, member? members "description"⟩ ::
      ⟨path ++ [.member "fields"], .fields, member? members "fields"⟩ ::
      (itemPlaces (fieldPlaces room) (path ++ [.member "fields"]) (member? members "fields") ++
        valuePlaces (fieldPlaces room) (path ++ [.member "element"]) (member? members "element"))
    | _ => []

/-- The places in what should be a schema. -/
def schemaPlaces (room : Nat) (v : Value) : List Position :=
  ⟨[], .schema, some v⟩ ::
    match v with
    | .object members =>
      ⟨[.member "fields"], .schemaFields, member? members "fields"⟩ ::
        itemPlaces (fieldPlaces room) [.member "fields"] (member? members "fields")
    | _ => []

/-- The issues of some places. -/
def issuesOf (places : List Position) : List Issue := places.flatMap Position.issues

namespace Checked

/-- A check at the end of a way succeeds without issues, or fails with these and no others. -/
def Reports (path : List Key) (c : Checked α) (issues : List Issue) : Prop :=
  match c with
  | .ok _ => issues = []
  | .error own => own ≠ [] ∧ issues = own.map fun issue => { issue with location := path ++ issue.location }

variable {path : List Key} {c : Checked α} {d : Checked β} {issues later : List Issue}

theorem Reports.map (reports : c.Reports path issues) (f : α → β) : Reports path (c.map f) issues := by
  cases c with
  | ok a => exact reports
  | error own => exact reports

theorem Reports.both (first : c.Reports path issues) (second : d.Reports path later) :
    Reports path (c.both d) (issues ++ later) := by
  cases c with
  | ok a =>
    cases first
    cases d with
    | ok b => exact second
    | error own => exact second
  | error own =>
    obtain ⟨some, rfl⟩ := first
    cases d with
    | ok b =>
      cases second
      exact ⟨some, List.append_nil _⟩
    | error others =>
      obtain ⟨-, rfl⟩ := second
      exact ⟨List.append_ne_nil_of_left_ne_nil some _, (List.map_append).symm⟩

theorem Reports.under {key : Key} (reports : c.Reports (path ++ [key]) issues) :
    Reports path (c.under key) issues := by
  cases c with
  | ok a => exact reports
  | error own =>
    obtain ⟨some, rfl⟩ := reports
    refine ⟨fun none => some (List.map_eq_nil_iff.mp none), ?_⟩
    simp [List.map_map, Function.comp_def]

theorem reports_problem (path : List Key) (p : Problem) :
    Reports path (problem p : Checked α) [⟨path, p⟩] :=
  ⟨List.cons_ne_nil _ _, by simp⟩

end Checked

theorem reports_member (issues : Option Value → List Issue) {path : List Key}
    {members : List (String × Value)} {name : String} {absent : Checked α} {check : Value → Checked α}
    (none : absent.Reports (path ++ [.member name]) (issues none))
    (there : ∀ v, (check v).Reports (path ++ [.member name]) (issues (some v))) :
    (checkMember members name absent check).Reports path (issues (member? members name)) := by
  unfold checkMember
  refine Checked.Reports.under ?_
  cases member? members name with
  | none => exact none
  | some v => exact there v

theorem checkText_reports (path : List Key) (v : Value) :
    (checkText v).Reports path ((textFault v).toList.map fun problem => ⟨path, problem⟩) := by
  cases v with
  | text s => rfl
  | bytes data =>
    cases decoded : Text.decodeUtf8 data with
    | ok cs =>
      simp only [checkText, textFault, decoded]
      rfl
    | error fault =>
      simp only [checkText, textFault, decoded]
      exact Checked.reports_problem path _
  | _ => exact Checked.reports_problem path _

theorem checkType_reports (path : List Key) (v : Value) :
    (checkType v).Reports path (Position.mk path .type (some v)).issues := by
  have texts := checkText_reports [] v
  cases v with
  | text declared => rfl
  | bytes data =>
    cases decoded : Text.decodeUtf8 data with
    | ok cs =>
      simp only [checkType, checkText, Position.issues, Want.faults, textFault, decoded]
      rfl
    | error fault =>
      simp only [checkType, checkText, Position.issues, Want.faults, textFault, decoded]
      exact ⟨List.cons_ne_nil _ _, rfl⟩
  | _ => exact ⟨List.cons_ne_nil _ _, rfl⟩

theorem checkTextOrNull_reports (path : List Key) (v : Value) :
    (checkTextOrNull v).Reports path (Position.mk path .description (some v)).issues := by
  by_cases null : v = .null
  · subst null
    rfl
  · have issues : (Position.mk path .description (some v)).issues =
        (textFault v).toList.map fun problem => ⟨path, problem⟩ := by
      cases v with
      | null => exact absurd rfl null
      | _ => simp [Position.issues, Want.faults, Function.comp_def]
    rw [checkTextOrNull_eq null, issues]
    exact (checkText_reports path v).map _

/-! ### Checks of fields -/

theorem issuesOf_cons (p : Position) (places : List Position) :
    issuesOf (p :: places) = p.issues ++ issuesOf places := List.flatMap_cons

theorem issuesOf_append (places later : List Position) :
    issuesOf (places ++ later) = issuesOf places ++ issuesOf later := List.flatMap_append

section
variable {room : Nat} {below : List Key → Value → List Position}

theorem checkItems_reports
    (each : ∀ path v, (checkFieldIn room v).Reports path (issuesOf (below path v))) (path : List Key)
    (i : Nat) (items : List Value) :
    (checkItems room i items).Reports path
      (issuesOf ((items.zipIdx i).flatMap fun (item, i) => below (path ++ [.index i]) item)) := by
  induction items generalizing i with
  | nil => rfl
  | cons item rest ih =>
    simp only [checkItems, List.zipIdx_cons, List.flatMap_cons, issuesOf_append]
    exact ((each _ item).under.both (ih (i + 1))).map _

theorem checkFieldsOrNull_reports
    (each : ∀ path v, (checkFieldIn room v).Reports path (issuesOf (below path v))) (path : List Key)
    (v : Value) :
    (checkFieldsOrNull room v).Reports path
      (issuesOf (⟨path, .fields, some v⟩ :: itemPlaces below path (some v))) := by
  cases among : v.items? with
  | some items =>
    have sound : (Position.mk path .fields (some v)).issues = [] := by
      cases v <;> cases among <;> rfl
    have places : itemPlaces below path (some v) =
        items.zipIdx.flatMap fun (item, i) => below (path ++ [.index i]) item := by
      simp only [itemPlaces, Option.bind_some, among, Option.getD_some]
    rw [checkFieldsOrNull_items among, issuesOf_cons, sound, places, List.nil_append]
    exact (checkItems_reports each path 0 items).map _
  | none =>
    cases v with
    | list items => cases among
    | bag items => cases among
    | null => rfl
    | _ => exact ⟨List.cons_ne_nil _ _, rfl⟩

theorem checkFieldOrNull_reports
    (each : ∀ path v, (checkFieldIn room v).Reports path (issuesOf (below path v))) (path : List Key)
    (v : Value) :
    (checkFieldOrNull room v).Reports path (issuesOf (valuePlaces below path (some v))) := by
  by_cases null : v = .null
  · subst null
    rfl
  · have places : valuePlaces below path (some v) = below path v := by
      cases v with
      | null => exact absurd rfl null
      | _ => rfl
    rw [checkFieldOrNull_eq null, places]
    exact (each path v).map _

end

section
variable (path : List Key) (members : List (String × Value)) {room : Nat}

theorem checkName_reports :
    (checkMember members "name" (.ok (.ofString "")) checkText).Reports path
      (Position.mk (path ++ [.member "name"]) .name (member? members "name")).issues := by
  refine reports_member (fun found => Position.issues ⟨_, .name, found⟩) rfl fun v => ?_
  simpa [Position.issues, Want.faults, Function.comp_def] using checkText_reports _ v

theorem checkTypeMember_reports :
    (checkMember members "type" (.problem .missing) checkType).Reports path
      (Position.mk (path ++ [.member "type"]) .type (member? members "type")).issues :=
  reports_member (fun found => Position.issues ⟨_, .type, found⟩) ⟨List.cons_ne_nil _ _, rfl⟩
    fun _ => checkType_reports _ _

theorem checkDescription_reports :
    (checkMember members "description" (.ok none) checkTextOrNull).Reports path
      (Position.mk (path ++ [.member "description"]) .description (member? members "description")).issues :=
  reports_member (fun found => Position.issues ⟨_, .description, found⟩) rfl
    fun _ => checkTextOrNull_reports _ _

theorem checkFields_reports
    (each : ∀ path v, (checkFieldIn room v).Reports path (issuesOf (fieldPlaces room path v))) :
    (checkMember members "fields" (.ok none) (checkFieldsOrNull room)).Reports path
      (issuesOf (⟨path ++ [.member "fields"], .fields, member? members "fields"⟩ ::
        itemPlaces (fieldPlaces room) (path ++ [.member "fields"]) (member? members "fields"))) :=
  reports_member (fun found => issuesOf (⟨_, .fields, found⟩ :: itemPlaces (fieldPlaces room) _ found))
    rfl fun _ => checkFieldsOrNull_reports each _ _

theorem checkElement_reports
    (each : ∀ path v, (checkFieldIn room v).Reports path (issuesOf (fieldPlaces room path v))) :
    (checkMember members "element" (.ok none) (checkFieldOrNull room)).Reports path
      (issuesOf (valuePlaces (fieldPlaces room) (path ++ [.member "element"])
        (member? members "element"))) :=
  reports_member (fun found => issuesOf (valuePlaces (fieldPlaces room) _ found)) rfl
    fun _ => checkFieldOrNull_reports each _ _

end

/-- What should be a field is refused with the issues of all places in it. -/
theorem checkFieldIn_reports (room : Nat) (path : List Key) (v : Value) :
    (checkFieldIn room v).Reports path (issuesOf (fieldPlaces room path v)) := by
  induction room generalizing path v with
  | zero => cases v <;> exact ⟨List.cons_ne_nil _ _, rfl⟩
  | succ room ih =>
    cases v with
    | object members =>
      rw [checkFieldIn_object]
      have head := (checkName_reports path members).both
        ((checkTypeMember_reports path members).both (checkDescription_reports path members))
      have below := (checkFields_reports path members ih).both (checkElement_reports path members ih)
      have all := (head.both below).map fun parts =>
        fieldOfParts parts.1.1 parts.1.2.1 parts.1.2.2 parts.2
      simp only [fieldPlaces, issuesOf_cons, issuesOf_append, List.append_assoc] at all ⊢
      exact all
    | _ => exact ⟨List.cons_ne_nil _ _, rfl⟩

theorem checkSchemaFields_reports (room : Nat) (path : List Key) (v : Value) :
    (checkSchemaFields room v).Reports path
      (issuesOf (⟨path, .schemaFields, some v⟩ :: itemPlaces (fieldPlaces room) path (some v))) := by
  by_cases null : v = .null
  · subst null
    exact ⟨List.cons_ne_nil _ _, rfl⟩
  · have issues : (Position.mk path .schemaFields (some v)).issues =
        (Position.mk path .fields (some v)).issues := by
      cases v with
      | null => exact absurd rfl null
      | _ => rfl
    rw [checkSchemaFields_eq null, issuesOf_cons, issues, ← issuesOf_cons]
    exact (checkFieldsOrNull_reports (checkFieldIn_reports _) path v).map _

theorem checkSchemaIn_reports (room : Nat) (v : Value) :
    (checkSchemaIn room v).Reports [] (issuesOf (schemaPlaces room v)) := by
  cases v with
  | object members =>
    rw [checkSchemaIn_object]
    have member : (checkMember members "fields" (.ok []) (checkSchemaFields room)).Reports []
        (issuesOf (⟨[.member "fields"], .schemaFields, member? members "fields"⟩ ::
          itemPlaces (fieldPlaces room) [.member "fields"] (member? members "fields"))) :=
      reports_member (fun found => issuesOf (⟨_, .schemaFields, found⟩ ::
        itemPlaces (fieldPlaces room) _ found)) rfl fun _ => checkSchemaFields_reports _ _ _
    exact member.map _
  | _ => exact ⟨List.cons_ne_nil _ _, rfl⟩

/-- A document is refused if and only if some place in it has an issue, and with the issues of all
places. -/
theorem checkSchemaIn_error_iff (room : Nat) (v : Value) (issues : List Issue) :
    checkSchemaIn room v = .error issues ↔ issues ≠ [] ∧ issues = issuesOf (schemaPlaces room v) := by
  have reports := checkSchemaIn_reports room v
  cases outcome : checkSchemaIn room v with
  | ok schema =>
    rw [outcome] at reports
    exact iff_of_false nofun fun ⟨filled, same⟩ => filled (same.trans reports)
  | error own =>
    rw [outcome] at reports
    obtain ⟨filled, same⟩ := reports
    simp only [List.nil_append, List.map_id'] at same
    constructor
    · rintro ⟨⟩
      exact ⟨filled, same.symm⟩
    · rintro ⟨-, rfl⟩
      rw [same]

theorem at?_append (v : Value) (path rest : List Key) :
    v.at? (path ++ rest) = (v.at? path).bind (·.at? rest) := by
  induction path generalizing v with
  | nil => rfl
  | cons key path ih =>
    simp only [List.cons_append, Value.at?]
    cases v.step? key with
    | none => rfl
    | some inner => exact ih inner

/-- What stands one step further. -/
theorem at?_concat {v inner : Value} (path : List Key) (here : v.at? path = some inner) (key : Key) :
    v.at? (path ++ [key]) = inner.step? key := by
  rw [at?_append, here, Option.bind_some]
  exact Option.bind_fun_some _

section
variable {v : Value} {path : List Key} {found : Option Value} {below : List Key → Value → List Position}

theorem at?_of_itemPlaces
    (each : ∀ path inner, v.at? path = some inner → ∀ p ∈ below path inner, v.at? p.path = p.found)
    (here : v.at? path = found) : ∀ p ∈ itemPlaces below path found, v.at? p.path = p.found := by
  intro p mem
  obtain ⟨⟨item, i⟩, listed, inside⟩ := List.mem_flatMap.mp mem
  refine each _ item ?_ p inside
  cases found with
  | none => cases listed
  | some list =>
    rw [at?_concat path here]
    simp only [Option.bind_some] at listed
    cases among : list.items? with
    | none =>
      rw [among] at listed
      cases listed
    | some items =>
      rw [among] at listed
      simp only [Value.step?, among, Option.bind_some]
      exact List.mk_mem_zipIdx_iff_getElem?.mp listed

theorem at?_of_valuePlaces
    (each : ∀ path inner, v.at? path = some inner → ∀ p ∈ below path inner, v.at? p.path = p.found)
    (here : v.at? path = found) : ∀ p ∈ valuePlaces below path found, v.at? p.path = p.found := by
  intro p mem
  unfold valuePlaces at mem
  split at mem
  · cases mem
  · cases mem
  · exact each path _ here p mem

end

theorem at?_of_fieldPlaces (v : Value) (room : Nat) (path : List Key) (inner : Value)
    (here : v.at? path = some inner) : ∀ p ∈ fieldPlaces room path inner, v.at? p.path = p.found := by
  induction room generalizing path inner with
  | zero => exact List.forall_mem_singleton.mpr here
  | succ room ih =>
    refine List.forall_mem_cons.mpr ⟨here, ?_⟩
    cases inner with
    | object members =>
      have member (name : String) : v.at? (path ++ [.member name]) = member? members name :=
        at?_concat path here _
      simp only [List.forall_mem_cons, List.forall_mem_append]
      exact ⟨member _, member _, member _, member _, at?_of_itemPlaces ih (member _),
        at?_of_valuePlaces ih (member _)⟩
    | _ => exact nofun

/-- Each place is where its way leads from the top of the document. -/
theorem at?_of_schemaPlaces (room : Nat) (v : Value) : ∀ p ∈ schemaPlaces room v, v.at? p.path = p.found := by
  refine List.forall_mem_cons.mpr ⟨rfl, ?_⟩
  cases v with
  | object members =>
    have member : (Value.object members).at? [.member "fields"] = member? members "fields" :=
      at?_concat [] rfl _
    exact List.forall_mem_cons.mpr
      ⟨member, at?_of_itemPlaces (at?_of_fieldPlaces _ _) member⟩
  | _ => exact nofun

end ChangelogViews
