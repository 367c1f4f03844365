import ChangelogViews.Proofs.Views.LaidOut
import ChangelogViews.Sql.Dialects

/-!
# Arrays and their views

The views of a compiled schema stand for the arrays of its tree, one for one and in depth-first order
(`views_correspond`). What they read comes before them.
-/

namespace ChangelogViews
namespace Target

private theorem depends_before {views : SchemaViews} {snapshot : String}
    (own : views.snapshot.name = snapshot ∧ views.snapshot.dependsOn = [])
    (top : views.top.dependsOn = [snapshot])
    (arrays : ∀ view ∈ views.children, view.dependsOn = [snapshot]) {before after : List View}
    {view : View} (split : views.all = before ++ view :: after) :
    ∀ name ∈ view.dependsOn, name ∈ before.map View.name := by
  unfold SchemaViews.all at split
  match before with
  | [] =>
    obtain ⟨rfl, _⟩ := List.cons.inj split
    rw [own.2]
    exact fun name inside => absurd inside List.not_mem_nil
  | first :: rest =>
    obtain ⟨rfl, later⟩ := List.cons.inj split
    have reads : view.dependsOn = [snapshot] := by
      have member : view ∈ views.top :: views.children := by
        rw [later]
        exact List.mem_append_right _ List.mem_cons_self
      rcases List.mem_cons.mp member with rfl | member
      · exact top
      · exact arrays view member
    rw [reads]
    intro name inside
    rw [List.mem_singleton.mp inside, ← own.1]
    exact List.mem_cons_self

/-- What a view of a compiled schema reads comes before it. -/
theorem reads_before {t : Target} {dataset : String} {first schemaName : Option String}
    {schema : Schema} {changelog : Option String} {views : SchemaViews}
    (done : t.compile dataset first schemaName schema changelog = .ok views)
    {before after : List View} {view : View} (split : views.all = before ++ view :: after) :
    ∀ name ∈ view.dependsOn, name ∈ before.map View.name := by
  obtain ⟨_, _, _, _, _, _, arrays, laid, _⟩ := layOut_ok (compile_ok done)
  refine depends_before ⟨rfl, ?_⟩ ?_ ?_ split
  · rw [laid]; rfl
  · rw [laid]; rfl
  · intro child inside
    obtain ⟨n, _, made⟩ := mem_of_mapM_ok arrays inside
    rw [(ChildSite.nodeView_ok made).2.2, laid]
    rfl

/-- A compiled schema has a snapshot, a top view, and one view for each array of its tree, named for
the key path of the array. No two have one name, and each reads only views before it. -/
theorem views_correspond {t : Target} {dataset : String} {first schemaName : Option String}
    {schema : Schema} {changelog : Option String} {views : SchemaViews}
    (done : t.compile dataset first schemaName schema changelog = .ok views) :
    views.all = views.snapshot :: views.top :: views.children ∧
    views.snapshot.name = Names.snapshot first schemaName ∧
    views.top.name = Names.top first schemaName ∧
    views.children.map View.name =
      schema.arrayNodes.map (fun n => s!"{views.top.name}_{joined n.site.keyPath}") ∧
    (views.all.map View.name).Nodup ∧
    ∀ before view after, views.all = before ++ view :: after →
      ∀ name ∈ view.dependsOn, name ∈ before.map View.name := by
  obtain ⟨names, spelling, flat, proper, _, _, arrays, laid, apart⟩ := layOut_ok (compile_ok done)
  obtain ⟨rfl, rfl⟩ := properNames_ok proper
  have snapshotName : views.snapshot.name = Names.snapshot (some names.1) (some names.2) := by
    rw [laid]; rfl
  have topName : views.top.name = Names.top (some names.1) (some names.2) := by rw [laid]; rfl
  refine ⟨rfl, snapshotName, topName, ?_, apart, ?_⟩
  · have named : ∀ n ∈ schema.arrayNodes, ∀ view,
        (t.childSite spelling dataset names.1 names.2).nodeView (spelling.quote t.layout.data) n =
          .ok view →
        view.name = s!"{(t.childSite spelling dataset names.1 names.2).top}_{joined n.site.keyPath}" :=
      fun n _ view made => (ChildSite.nodeView_ok made).2.1
    rw [map_of_mapM_ok named arrays, topName]
    rfl
  · intro before view after split
    refine depends_before ⟨snapshotName, ?_⟩ ?_ ?_ split
    · rw [laid]; rfl
    · rw [laid]; rfl
    · intro child inside
      obtain ⟨n, _, made⟩ := mem_of_mapM_ok arrays inside
      exact (ChildSite.nodeView_ok made).2.2

/-- An array of arrays of maps with an array, and an array in a map. -/
def nestedArrays : Schema :=
  let inner := { Field.ofKind (.ofString "b") .array with fields := some [] }
  let member := { Field.ofKind (.ofString "y") .map with fields := some [inner] }
  let middle := { Field.ofKind (.ofString "x") .array with element := some member }
  let mapped := Field.ofKind (.ofString "c") .array
  ⟨[{ Field.ofKind (.ofString "a") .array with element := some middle },
    { Field.ofKind (.ofString "m") .map with fields := some [mapped] }]⟩

theorem views_of_nestedArrays :
    ∃ views, compile ⟨Sql.BigQuery.dialect, "p", .standard⟩ "d" (some "f") (some "s") nestedArrays
        none = .ok views ∧
      views.children.map View.name = ["f_schema_s_latest_a", "f_schema_s_latest_a_a",
        "f_schema_s_latest_a_a_b", "f_schema_s_latest_m_c"] := by
  have compiled : ∃ views, compile ⟨Sql.BigQuery.dialect, "p", .standard⟩ "d" (some "f") (some "s")
      nestedArrays none = .ok views := by
    unfold compile
    rw [layOut_eq]
    exact ⟨_, rfl⟩
  obtain ⟨views, done⟩ := compiled
  refine ⟨views, done, ?_⟩
  obtain ⟨_, _, top, names, _⟩ := views_correspond done
  rw [names, top]
  decide

end Target
end ChangelogViews
