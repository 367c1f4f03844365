import ChangelogViews.Proofs.Views.Walks

/-!
# Keys

A view splits its arrays off under their dotted paths. Accepted names hold no dot and tell fields apart, so
no two arrays of a view share a key and none takes the place of another (`keyed_walk`).
-/

namespace ChangelogViews

namespace NameRule

theorem beforeFeed_cases (cs : List Char) : beforeFeed cs = cs ∨ cs = beforeFeed cs ++ ['\n'] := by
  unfold beforeFeed
  split
  · next rest reversed =>
    right
    rw [← List.reverse_inj, reversed]
    simp
  · exact .inl rfl

private theorem isWordChar_of_holds {cs : List Char} (holds : identifier.holds cs = true) :
    ∀ c ∈ cs, isWordChar c = true := by
  cases cs with
  | nil => simp [NameRule.holds] at holds
  | cons first rest =>
    simp only [NameRule.holds, Bool.and_eq_true, List.all_eq_true] at holds
    intro c member
    rcases List.mem_cons.mp member with rfl | member
    · exact holds.1.1
    · exact holds.2 c member

/-- An accepted identifier is made of word characters, save for one line feed. -/
theorem mem_of_accepts {name : String} (accepted : identifier.accepts name = true) {c : Char}
    (member : c ∈ name.toList) : isWordChar c = true ∨ c = '\n' := by
  rw [accepts, Bool.or_eq_true] at accepted
  rcases accepted with whole | before
  · exact .inl (isWordChar_of_holds whole c member)
  · rcases beforeFeed_cases name.toList with same | fed
    · rw [same] at before
      exact .inl (isWordChar_of_holds before c member)
    · rw [fed] at member
      rcases List.mem_append.mp member with member | member
      · exact .inl (isWordChar_of_holds before c member)
      · exact .inr (List.mem_singleton.mp member)

theorem no_dot_of_accepts {name : String} (accepted : identifier.accepts name = true) :
    '.' ∉ name.toList := by
  intro member
  rcases mem_of_accepts accepted member with word | feed
  · exact absurd word (by decide)
  · exact absurd feed (by decide)

private theorem small_of_isWordChar {c : Char} (word : isWordChar c = true) : c.toNat < 128 := by
  delta isWordChar Char.isAlphanum Char.isAlpha Char.isUpper Char.isLower Char.isDigit at word
  simp only [Bool.or_eq_true, Bool.and_eq_true, decide_eq_true_eq, beq_iff_eq, ge_iff_le,
    UInt32.le_iff_toNat_le] at word
  rcases word with ((upper | lower) | digit) | rfl
  · simp at upper; omega
  · simp at lower; omega
  · simp at digit; omega
  · decide

private theorem small_of_accepts {name : String} (accepted : identifier.accepts name = true)
    {c : Char} (member : c ∈ name.toList) : c.toNat < 0xfffd := by
  rcases mem_of_accepts accepted member with word | rfl
  · exact Nat.lt_trans (small_of_isWordChar word) (by decide)
  · decide

end NameRule

namespace LooseText

/-- A text with a half in it is shown with a character that no identifier holds. -/
private theorem large_of_half {signs : List Sign} {h : Half} (member : .half h ∈ signs) :
    ∃ c ∈ joined signs, 0xfffd ≤ c.toNat := by
  fun_induction joined signs with
  | case1 => cases member
  | case2 c rest ih =>
    have later : .half h ∈ rest := by simpa using member
    obtain ⟨other, inside, large⟩ := ih later
    exact ⟨other, List.mem_cons_of_mem _ inside, large⟩
  | case3 first second rest c pair ih =>
    refine ⟨c, List.mem_cons_self, ?_⟩
    unfold Half.pair? at pair
    split at pair
    · next order =>
      have low : first.val < 0x400 ∧ Nat.blt second.val 0x400 = false := by
        simpa [Half.isFirst] using order
      have range := second.isLt
      have valid : (0x10000 + first.val * 0x400 + (second.val - 0x400)).isValidChar :=
        .inr (by omega)
      rw [← Option.some.inj pair, Char.ofNat, dif_pos valid]
      change _ ≤ 0x10000 + first.val * 0x400 + (second.val - 0x400)
      omega
    · cases pair
  | case4 => exact ⟨loneHalf, List.mem_cons_self, by decide⟩
  | case5 => exact ⟨loneHalf, List.mem_cons_self, by decide⟩

/-- A text that is shown as an identifier is no more than what is shown. -/
theorem eq_ofString_of_accepts {t : LooseText}
    (accepted : NameRule.identifier.accepts t.shown = true) : t = ofString t.shown := by
  obtain ⟨start, later⟩ := t
  cases later with
  | nil => rfl
  | cons piece rest =>
    obtain ⟨h, s⟩ := piece
    have member : .half h ∈ signs ⟨start, (h, s) :: rest⟩ := by simp [signs]
    obtain ⟨c, inside, large⟩ := large_of_half member
    have among : c ∈ (shown ⟨start, (h, s) :: rest⟩).toList := by
      simpa [shown, whole?] using inside
    have small := NameRule.small_of_accepts accepted among
    omega

/-- Names that are shown as the same identifier are the same. -/
theorem eq_of_shown_eq {a b : LooseText} (accepted : NameRule.identifier.accepts a.shown = true)
    (same : a.shown = b.shown) : a = b := by
  rw [eq_ofString_of_accepts accepted, same]
  exact (eq_ofString_of_accepts (same ▸ accepted)).symm

end LooseText

private theorem dotted_toList (path : List String) :
    (dotted path).toList = ['.'].intercalate (path.map String.toList) := String.toList_intercalate

/-- Paths whose names hold no dot can be read back from their dotted form. -/
theorem dotted_injective {a b : List String} (plainA : ∀ name ∈ a, '.' ∉ name.toList)
    (plainB : ∀ name ∈ b, '.' ∉ name.toList) (neA : a ≠ []) (neB : b ≠ [])
    (same : dotted a = dotted b) : a = b := by
  have lists := congrArg String.toList same
  rw [dotted_toList, dotted_toList] at lists
  have cut := congrArg (List.splitOn '.') lists
  rw [List.splitOn_intercalate '.' (by simpa using plainA) (by simpa using neA),
    List.splitOn_intercalate '.' (by simpa using plainB) (by simpa using neB)] at cut
  exact (List.map_inj_right fun _ _ equal => String.toList_inj.mp equal).mp cut

theorem head_of_places (root path jsonPath : List String) (earlier : List LooseText)
    (f : Field) :
    ⟨root, path, jsonPath, earlier, f⟩ ∈ f.places root path jsonPath earlier := by
  rw [Field.places_eq]
  exact List.mem_cons_self

/-- Where the places of named fields lie: behind the path of the view, and in a list of fields behind
the name of one that no field before the list has. -/
theorem path_of_place :
    (∀ (f : Field) (root path jsonPath : List String) (earlier : List LooseText),
      (∀ p ∈ f.places root path jsonPath earlier, p.Named) →
      ∀ p ∈ f.places root path jsonPath earlier, ∃ below, p.path = path ++ below ∧
        ∀ name ∈ below, '.' ∉ name.toList) ∧
    ∀ (fields : List Field) (root path jsonPath : List String) (earlier : List LooseText),
      (∀ p ∈ placesIn root path jsonPath earlier fields, p.Named) →
      ∀ p ∈ placesIn root path jsonPath earlier fields, ∃ f ∈ fields, ∃ below,
        p.path = path ++ f.name.shown :: below ∧ f.name ∉ earlier ∧
        NameRule.identifier.accepts f.name.shown = true ∧ ∀ name ∈ below, '.' ∉ name.toList := by
  apply Field.induction_members
  case node =>
    intro f members root path jsonPath earlier named p member
    rw [Field.places_eq] at named member
    rcases List.mem_cons.mp member with rfl | member
    · exact ⟨[], (List.append_nil path).symm, fun _ inside => absurd inside List.not_mem_nil⟩
    · obtain ⟨g, _, below, same, _, accepted, plain⟩ :=
        members root path jsonPath [] (fun q inside => named q (List.mem_cons_of_mem _ inside)) p member
      refine ⟨g.name.shown :: below, same, ?_⟩
      intro name inside
      rcases List.mem_cons.mp inside with rfl | inside
      · exact NameRule.no_dot_of_accepts accepted
      · exact plain name inside
  case nil =>
    intro root path jsonPath earlier _ p member
    cases member
  case cons =>
    intro f rest first others root path jsonPath earlier named p member
    rw [placesIn] at named member
    have own := named _ (List.mem_append_left _ (head_of_places _ _ _ earlier f))
    rcases List.mem_append.mp member with member | member
    · obtain ⟨below, same, plain⟩ :=
        first _ _ _ earlier (fun q inside => named q (List.mem_append_left _ inside)) p member
      refine ⟨f, List.mem_cons_self, below, ?_, own.1, own.2, plain⟩
      rw [same, List.append_assoc, List.singleton_append]
    · obtain ⟨g, inside, below, same, fresh, accepted, plain⟩ :=
        others root path jsonPath _ (fun q inside => named q (List.mem_append_right _ inside)) p member
      exact ⟨g, List.mem_cons_of_mem _ inside, below, same,
        fun before => fresh (List.mem_cons_of_mem _ before), accepted, plain⟩

/-- No two places of named fields have one path. -/
theorem nodup_paths :
    (∀ (f : Field) (root path jsonPath : List String) (earlier : List LooseText),
      (∀ p ∈ f.places root path jsonPath earlier, p.Named) →
      ((f.places root path jsonPath earlier).map FieldPlace.path).Nodup) ∧
    ∀ (fields : List Field) (root path jsonPath : List String) (earlier : List LooseText),
      (∀ p ∈ placesIn root path jsonPath earlier fields, p.Named) →
      ((placesIn root path jsonPath earlier fields).map FieldPlace.path).Nodup := by
  apply Field.induction_members
  case node =>
    intro f members root path jsonPath earlier named
    rw [Field.places_eq] at named ⊢
    have below : ∀ p ∈ placesIn root path jsonPath [] f.members, p.Named :=
      fun p inside => named p (List.mem_cons_of_mem _ inside)
    rw [List.map_cons, List.nodup_cons]
    refine ⟨?_, members root path jsonPath [] below⟩
    intro repeated
    obtain ⟨p, inside, same⟩ := List.mem_map.mp repeated
    obtain ⟨g, _, rest, longer, _⟩ := path_of_place.2 _ root path jsonPath [] below p inside
    rw [longer] at same
    have lengths := congrArg List.length same
    simp at lengths
  case nil => exact fun _ _ _ _ _ => List.nodup_nil
  case cons =>
    intro f rest first others root path jsonPath earlier named
    rw [placesIn] at named ⊢
    have own := named _ (List.mem_append_left _ (head_of_places _ _ _ earlier f))
    have front := fun q inside => named q (List.mem_append_left _ inside)
    have behind := fun q inside => named q (List.mem_append_right _ inside)
    rw [List.map_append, List.nodup_append]
    refine ⟨first _ _ _ earlier front, others root path jsonPath _ behind, ?_⟩
    intro a inA b inB same
    obtain ⟨p, inside, rfl⟩ := List.mem_map.mp inA
    obtain ⟨q, among, rfl⟩ := List.mem_map.mp inB
    obtain ⟨_, pathP, _⟩ := path_of_place.1 f _ _ _ earlier front p inside
    obtain ⟨g, _, _, pathQ, fresh, _⟩ := path_of_place.2 rest root path jsonPath _ behind q among
    rw [pathP, pathQ, List.append_assoc, List.append_cancel_left_eq, List.singleton_append,
      List.cons.injEq] at same
    exact fresh (List.mem_cons.mpr (.inl (LooseText.eq_of_shown_eq own.2 same.1).symm))

/-- Children with different keys are all kept as they are. -/
theorem keyed_eq_self {children : List ChildSchema} (apart : (children.map ChildSchema.key).Nodup) :
    keyed children = children := by
  induction children with
  | nil => rfl
  | cons child rest ih =>
    rw [List.map_cons, List.nodup_cons] at apart
    have other : ∀ c ∈ rest, ¬ (c.key == child.key) = true := by
      intro c inside same
      exact apart.1 (List.mem_map.mpr ⟨c, inside, by simpa using same⟩)
    have later : rest.foldr ChildSchema.before [] = rest := ih apart.2
    rw [keyed, List.foldr_cons, later, ChildSchema.before, List.find?_eq_none.mpr other,
      Option.getD_none, List.filter_eq_self.mpr]
    intro c inside
    simpa using other c inside

/-- Behind one and the same path, dotted paths differ where the names behind it do. -/
theorem dotted_append_injective (path : List String) {a b : List String}
    (plainA : ∀ name ∈ a, '.' ∉ name.toList) (plainB : ∀ name ∈ b, '.' ∉ name.toList)
    (neA : a ≠ []) (neB : b ≠ []) (same : dotted (path ++ a) = dotted (path ++ b)) : a = b := by
  by_cases top : path = []
  · subst top
    exact dotted_injective plainA plainB neA neB same
  · simp only [dotted, String.intercalate_append_of_ne_nil top neA,
      String.intercalate_append_of_ne_nil top neB] at same
    exact dotted_injective plainA plainB neA neB ((String.append_right_inj _).mp same)

/-- The dotted paths of the named fields of a list differ. -/
theorem nodup_dotted {root path jsonPath : List String} {earlier : List LooseText}
    {fields : List Field} (named : ∀ p ∈ placesIn root path jsonPath earlier fields, p.Named) :
    ((placesIn root path jsonPath earlier fields).map fun p => dotted p.path).Nodup := by
  have apart := nodup_paths.2 fields root path jsonPath earlier named
  have behind := path_of_place.2 fields root path jsonPath earlier named
  rw [List.Nodup, List.pairwise_map] at apart ⊢
  refine apart.imp_of_mem ?_
  intro p q inside among differ same
  obtain ⟨f, _, below, pathP, _, accepted, plain⟩ := behind p inside
  obtain ⟨g, _, below', pathQ, _, accepted', plain'⟩ := behind q among
  refine differ ?_
  rw [pathP, pathQ] at same ⊢
  rw [dotted_append_injective path ?_ ?_ (List.cons_ne_nil _ _) (List.cons_ne_nil _ _) same]
  · intro name inside
    rcases List.mem_cons.mp inside with rfl | inside
    · exact NameRule.no_dot_of_accepts accepted
    · exact plain name inside
  · intro name inside
    rcases List.mem_cons.mp inside with rfl | inside
    · exact NameRule.no_dot_of_accepts accepted'
    · exact plain' name inside

/-- A walk over places with keys of their own keeps every array that it splits off. -/
theorem keyed_walk {d : Sql.Dialect} {source : String} {places : List FieldPlace}
    {taken : List TakenLabel} {flat : Flat} (keys : (places.map fun p => dotted p.path).Nodup)
    (passed : takeSteps taken (walk d source places) = .ok flat) :
    flat.children =
      (places.filter (·.field.isArray)).map fun p => childOf p.field p.path p.jsonPath := by
  rw [children_of_takeSteps passed, childrenOf_walk (sound_of_walk passed).1]
  apply keyed_eq_self
  have key : ∀ p : FieldPlace, (childOf p.field p.path p.jsonPath).key = dotted p.path := by
    intro p
    unfold childOf
    simp only
    split
    · rfl
    · rfl
  rw [List.map_map, Function.comp_def]
  simp only [key]
  exact (List.filter_sublist.map _).nodup keys

/-- Flattening a list of fields keeps every array among its places. -/
theorem children_of_placesIn {d : Sql.Dialect} {source : String} {root path jsonPath : List String}
    {fields : List Field} {taken : List TakenLabel} {flat : Flat}
    (passed : takeSteps taken (walk d source (placesIn root path jsonPath [] fields)) = .ok flat) :
    flat.children = ((placesIn root path jsonPath [] fields).filter (·.field.isArray)).map
      fun p => childOf p.field p.path p.jsonPath :=
  keyed_walk (nodup_dotted fun p inside => ((sound_of_walk passed).1 p inside).named) passed

/-- Flattening the elements of an array keeps every array among their places. -/
theorem children_of_elementPlaces {d : Sql.Dialect} {source : String} {root : List String}
    {f : Field} {taken : List TakenLabel} {flat : Flat}
    (passed : takeSteps taken (walk d source (f.elementPlaces root)) = .ok flat) :
    flat.children = ((f.elementPlaces root).filter (·.field.isArray)).map
      fun p => childOf p.field p.path p.jsonPath := by
  refine keyed_walk ?_ passed
  have sound := (sound_of_walk passed).1
  unfold Field.elementPlaces at sound ⊢
  split
  · next isMap =>
    rw [if_pos isMap] at sound
    exact nodup_dotted fun p inside => (sound p inside).named
  · exact List.pairwise_singleton _ _

end ChangelogViews
