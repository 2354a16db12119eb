/-
**Listings of imports.**

A listing leaves out the classes that need no import and sorts the others. It is told by which
classes the imports contain: in what order they were added does not show. In the text a flag tells
when to start a second block; as the order puts the `java` group first, that is at most once.

* `ListingOptions.skips_eq_false_iff`: the packages whose classes need an import.
* `Imports.block_append`: the text of a listing, block by block.
* `Session.Sound.listed_ok`, `Session.Sound.render_ok`: a listing, and its text.
* `Session.Sound.listed_congr`: imports that contain the same classes are listed alike.
* `Session.listings_sorted`: the listings of the imports at every moment.
-/

import JavaTypes.Proofs.ImportSets
import JavaTypes.Proofs.TypeOrder

namespace JavaTypes

open DisplayOrder

/-! ### Classes that need an import -/

theorem ListingOptions.skips_eq_false_iff {options : ListingOptions} {package : String} :
    options.skips package = false ↔
      package ≠ "" ∧ ¬ (options.implicitJavaLang = true ∧ package = javaLang) ∧
        options.package ≠ some package := by
  simp only [skips, Bool.or_eq_false_iff, beq_eq_false_iff_ne, ne_eq, Bool.and_eq_false_iff,
    and_assoc, not_and_or, Bool.not_eq_true]

namespace Registry

variable {r : Registry} {id a b : Handle} {package simple : String}

theorem Sound.shape?_topLevel (sound : r.Sound)
    (typed : r.typeOf id = .ok (.rawClass (.topLevel package simple))) :
    ∃ packageId nameId, r.shape? id = some (.rawClass packageId none nameId) ∧
      r.names.text? packageId = some package := by
  obtain ⟨shape, known, forms⟩ := sound.typeOf_eq_ok_iff.mp typed
  cases forms with
  | topLevel inPackage named => exact ⟨_, _, known, inPackage⟩

theorem Sound.packageName_topLevel (sound : r.Sound)
    (typed : r.typeOf id = .ok (.rawClass (.topLevel package simple))) :
    r.packageName id = .ok (some package) := by
  obtain ⟨packageId, nameId, known, inPackage⟩ := sound.shape?_topLevel typed
  have shape := shape_of_shape? known
  simp only [packageName, erasure, shape, nameText_eq_ok_iff.mpr inPackage, bind, Except.bind,
    pure, Except.pure]

/-- A class needs an import unless its package is skipped. -/
theorem needed_of_packageName (options : ListingOptions)
    (inPackage : r.packageName id = .ok (some package)) :
    Imports.needed r options id = .ok (!options.skips package) := by
  rw [Imports.needed, inPackage]
  rfl

/-- The name of what comes first is not behind. -/
theorem Sound.isLE_compareNames (sound : r.Sound) {name name' : String}
    (named : r.fullName a = .ok name) (named' : r.fullName b = .ok name')
    (before : r.Precedes a b) : (compareNames name name').isLE = true := by
  obtain ⟨type, typed, answer⟩ := bind_eq_ok_iff.mp named
  obtain ⟨other, typed', answer'⟩ := bind_eq_ok_iff.mp named'
  cases answer
  cases answer'
  rw [Precedes, sound.compare_eq typed typed', Except.ok.injEq] at before
  have ascending : (type.displayOrder other).isLE = true := by rw [before]; rfl
  rw [JavaType.displayOrder, Ordering.isLE_then_iff_and] at ascending
  exact ascending.1

end Registry

/-! ### The text of a listing -/

namespace Imports

variable {palette : Text.Palette} {first rest : List String}

theorem line_plain (name : String) : line .plain name = "import " ++ name ++ ";\n" := by
  rw [← String.toList_inj]
  simp [line, Text.Palette.plain]

/-- Behind names of the `java` group the flag is set, unless there are none. -/
theorem linesAfter_append (inside : ∀ name ∈ first, inJavaGroup name = true) (rest : List String)
    (afterJava : Bool) :
    linesAfter palette afterJava (first ++ rest) = String.join (first.map (line palette)) ++
      linesAfter palette (afterJava || !first.isEmpty) rest := by
  induction first generalizing afterJava with
  | nil => simp
  | cons name first ih =>
    rw [List.forall_mem_cons] at inside
    simp [linesAfter, inside.1, ih inside.2, String.append_assoc]

/-- Names outside the `java` group are set off from it, and then follow line by line. -/
theorem linesAfter_outside (outside : ∀ name ∈ rest, inJavaGroup name = false)
    (afterJava : Bool) :
    linesAfter palette afterJava rest =
      (if afterJava = false ∨ rest = [] then "" else "\n") ++
        String.join (rest.map (line palette)) := by
  induction rest generalizing afterJava with
  | nil => simp [linesAfter]
  | cons name rest ih =>
    rw [List.forall_mem_cons] at outside
    cases afterJava <;> simp [linesAfter, outside.1, ih outside.2, String.append_assoc]

/-- **Two blocks, and an empty line between them** unless one of them is empty. -/
theorem block_append (inside : ∀ name ∈ first, inJavaGroup name = true)
    (outside : ∀ name ∈ rest, inJavaGroup name = false) :
    block palette (first ++ rest) = String.join (first.map (line palette)) ++
      (if first = [] ∨ rest = [] then "" else "\n") ++ String.join (rest.map (line palette)) := by
  rw [block, linesAfter_append inside, linesAfter_outside outside, ← String.append_assoc]
  simp

end Imports

namespace ImportListing

/-- The lines that import classes of these names. -/
def lines (names : List String) : String :=
  String.join (names.map fun name => "import " ++ name ++ ";\n")

theorem join_line_plain (names : List String) :
    String.join (names.map (Imports.line .plain)) = lines names := by
  rw [lines, funext Imports.line_plain]

end ImportListing

/-! ### Listings of a session -/

namespace Session

open ImportListing

variable {s other : Session}

/-- **A listing** has the imports whose packages are not skipped, each before those that it
precedes. -/
theorem Sound.listed_ok (sound : s.Sound) (options : ListingOptions) :
    ∃ order, s.imports.listed s.registry options = .ok order ∧
      order.Pairwise s.registry.Precedes ∧
      ∀ id, id ∈ order ↔ id ∈ s.imports.toList ∧ ∃ package,
        s.registry.packageName id = .ok (some package) ∧ options.skips package = false := by
  choose! package simple typed using sound.topLevel
  have inPackage : ∀ id ∈ s.imports.toList,
      s.registry.packageName id = .ok (some (package id)) :=
    fun id member => sound.registry.packageName_topLevel (typed id member)
  have selected := filterM_of_ok fun id member =>
    Registry.needed_of_packageName options (inPackage id member)
  have issued : ∀ id ∈ s.imports.toList.filter (fun id => !options.skips (package id)),
      s.registry.Issued id :=
    fun id member => sound.registry.issued_of_typeOf (typed id (List.mem_of_mem_filter member))
  obtain ⟨order, sorted, permuted, ascending⟩ :=
    sound.registry.exists_ascending issued (sound.formed.nodup.filter _)
  refine ⟨order, ?_, ascending, fun id => ?_⟩
  · rw [Imports.listed, selected]
    exact sorted
  · rw [permuted.mem_iff, List.mem_filter, Bool.not_eq_true']
    refine and_congr_right fun member => ?_
    rw [inPackage id member]
    constructor
    · exact fun unskipped => ⟨package id, rfl, unskipped⟩
    · rintro ⟨_, same, unskipped⟩
      cases same
      exact unskipped

/-- **The text of a listing** has the names of what is listed, and they ascend. -/
theorem Sound.render_ok (sound : s.Sound) {options : ListingOptions} {order : List Handle}
    (listed : s.imports.listed s.registry options = .ok order)
    (ascending : order.Pairwise s.registry.Precedes)
    (inside : ∀ id ∈ order, id ∈ s.imports.toList) :
    ∃ names, List.Forall₂ (fun id name => s.registry.fullName id = .ok name) order names ∧
      names.Pairwise (fun a b => (compareNames a b).isLE = true) ∧
      ∀ palette, s.imports.render s.registry { options with palette } =
        .ok (Imports.block palette names) := by
  have total : ∀ id ∈ order, ∃ name, s.registry.fullName id = .ok name := by
    intro id member
    obtain ⟨package, simple, typed⟩ := sound.topLevel id (inside id member)
    exact ⟨_, Registry.fullName_of_typeOf typed⟩
  obtain ⟨names, each⟩ := exists_forall₂ total
  refine ⟨names, each, pairwise_of_forall₂ each ascending fun _ _ _ _ =>
    sound.registry.isLE_compareNames, fun palette => ?_⟩
  rw [Imports.render,
    show s.imports.listed s.registry { options with palette } = .ok order from listed]
  show (order.mapM s.registry.fullName >>= fun names => pure (Imports.block palette names)) = _
  rw [mapM_eq_ok_iff.mpr each]
  rfl

/-- **Imports that contain the same classes are listed alike.** -/
theorem Sound.listed_congr (sound : s.Sound) (sound' : other.Sound)
    (registry : other.registry = s.registry)
    (members : ∀ id, id ∈ other.imports.toList ↔ id ∈ s.imports.toList)
    (options : ListingOptions) :
    other.imports.listed other.registry options = s.imports.listed s.registry options := by
  obtain ⟨order, listed, ascending, inside⟩ := sound.listed_ok options
  obtain ⟨order', listed', ascending', inside'⟩ := sound'.listed_ok options
  rw [registry] at ascending' inside'
  have same : order' = order := ascending'.eq_of_mem_iff ascending fun id => by
    rw [inside, inside', members]
  rw [listed, listed', same]

/-- **Listings are sorted, and told by what the imports contain.** Take any session that proper
actions lead to from a new one. Listed are, under any options, the imports whose packages are not
skipped, each once and in strictly ascending order. Plain text has one line for each of them, those
whose full name begins with `java` first, and one empty line behind these if there are others.
Imports of the same registry that contain the same classes are listed alike and have the same
text. -/
theorem listings_sorted {s : Session} (reached : initial.Leads s) (options : ListingOptions) :
    (∃ order java others,
      s.imports.listed s.registry options = .ok order ∧
      (∀ id, id ∈ order ↔ id ∈ s.imports.toList ∧ ∃ package,
        s.registry.packageName id = .ok (some package) ∧ package ≠ "" ∧
          ¬ (options.implicitJavaLang = true ∧ package = "java.lang") ∧
          options.package ≠ some package) ∧
      order.Nodup ∧ order.Pairwise (fun a b => s.registry.compare a b = .ok .lt) ∧
      List.Forall₂ (fun id name => s.registry.fullName id = .ok name) order (java ++ others) ∧
      (∀ name ∈ java, "java".toList <+: name.toList) ∧
      (∀ name ∈ others, ¬ "java".toList <+: name.toList) ∧
      s.imports.render s.registry { options with palette := .plain } =
        .ok (lines java ++ (if java = [] ∨ others = [] then "" else "\n") ++ lines others)) ∧
    ∀ other : Session, initial.Leads other → other.registry = s.registry →
      (∀ id, id ∈ other.imports.toList ↔ id ∈ s.imports.toList) →
      other.imports.listed other.registry options = s.imports.listed s.registry options ∧
      ∃ text, s.imports.render s.registry options = .ok text ∧
        other.imports.render other.registry options = .ok text := by
  have sound := (reached.sound sound_initial).1
  obtain ⟨order, listed, ascending, inside⟩ := sound.listed_ok options
  obtain ⟨names, named, byName, rendered⟩ :=
    sound.render_ok listed ascending fun id member => ((inside id).mp member).1
  have blocks := filter_append_filter byName
  refine ⟨⟨order, names.filter fun name => inJavaGroup name = true,
    names.filter fun name => inJavaGroup name = false, listed, ?_, ascending.imp ne_of_irrefl,
    ascending, by rwa [blocks], fun name member => ?_, fun name member => ?_, ?_⟩,
    fun other reached' registry members => ?_⟩
  · simp only [inside, ListingOptions.skips_eq_false_iff, javaLang, implies_true]
  · exact inJavaGroup_iff.mp (of_decide_eq_true (List.mem_filter.mp member).2)
  · have outside : inJavaGroup name = false := of_decide_eq_true (List.mem_filter.mp member).2
    rw [← inJavaGroup_iff, outside]
    exact Bool.false_ne_true
  · rw [rendered, ← join_line_plain, ← join_line_plain,
      ← Imports.block_append (by simp) (by simp), blocks]
  · have sound' := (reached'.sound sound_initial).1
    have alike := sound.listed_congr sound' registry members options
    have same : other.imports.render other.registry options =
        s.imports.render s.registry options := by
      rw [Imports.render, Imports.render, alike, registry]
    exact ⟨alike, _, rendered options.palette, same.trans (rendered options.palette)⟩

/-- Two classes, added in either order: their listing, and its text of two blocks. -/
theorem listings_sorted_either_order :
    let asked := initial.after [.reference "org.b.C", .reference "java.util.Map"]
    let s := (Action.extend [⟨18⟩, ⟨19⟩]).after asked
    let other := (Action.extend [⟨19⟩, ⟨18⟩]).after asked
    initial.Leads s ∧ initial.Leads other ∧ other.registry = s.registry ∧
      s.imports.toList = [⟨18⟩, ⟨19⟩] ∧ other.imports.toList = [⟨19⟩, ⟨18⟩] ∧
      s.imports.listed s.registry {} = .ok [⟨19⟩, ⟨18⟩] ∧
      other.imports.listed other.registry {} = .ok [⟨19⟩, ⟨18⟩] ∧
      s.imports.render s.registry {} = .ok "import java.util.Map;\n\nimport org.b.C;\n" ∧
      other.imports.render other.registry {} =
        .ok "import java.util.Map;\n\nimport org.b.C;\n" := by
  intro asked s other
  have types : [⟨18⟩, ⟨19⟩].map asked.registry.typeOf = [
      .ok (.rawClass (.topLevel "org.b" "C")),
      .ok (.rawClass (.topLevel "java.util" "Map"))] := by subst asked; cbv
  have collected : s.imports.toList = [⟨18⟩, ⟨19⟩] := by subst s asked; cbv
  have collected' : other.imports.toList = [⟨19⟩, ⟨18⟩] := by subst other asked; cbv
  simp only [List.map_cons, List.map_nil, List.cons.injEq, and_true] at types
  obtain ⟨typed, typed'⟩ := types
  have reached : initial.Leads asked := Leads.refl.requests _
  have sound := (reached.sound sound_initial).1
  have proper : (Action.extend [⟨18⟩, ⟨19⟩]).Proper asked := by
    simp [Action.Proper, sound.registry.issued_of_typeOf typed,
      sound.registry.issued_of_typeOf typed']
  have proper' : (Action.extend [⟨19⟩, ⟨18⟩]).Proper asked := by
    simpa [Action.Proper, and_comm] using proper
  have registry : s.registry = asked.registry := Action.registry_after_extend sound proper
  have registry' : other.registry = s.registry :=
    (Action.registry_after_extend sound proper').trans registry.symm
  have leads : initial.Leads s := reached.step _ proper
  have leads' : initial.Leads other := reached.step _ proper'
  obtain ⟨⟨order, java, others, listed, members, _, ascending, named, inside, outside, plain⟩,
    alike⟩ := listings_sorted leads {}
  obtain ⟨same, text, rendered, rendered'⟩ := alike other leads' registry' (by
    simp [collected, collected', or_comm])
  cases plain.symm.trans rendered
  have inPackage := sound.registry.packageName_topLevel typed
  have inPackage' := sound.registry.packageName_topLevel typed'
  have compared := sound.registry.compare_eq typed' typed
  have fullName := Registry.fullName_of_typeOf typed
  have fullName' := Registry.fullName_of_typeOf typed'
  rw [← registry] at inPackage inPackage' compared fullName fullName'
  have here : ⟨18⟩ ∈ order := (members _).mpr ⟨by simp [collected], _, inPackage, by decide⟩
  have there : ⟨19⟩ ∈ order := (members _).mpr ⟨by simp [collected], _, inPackage', by decide⟩
  have before : [⟨19⟩, ⟨18⟩].Pairwise s.registry.Precedes :=
    List.pairwise_pair.mpr (compared.trans (by decide +kernel))
  replace ascending : order.Pairwise s.registry.Precedes := ascending
  obtain rfl : order = [⟨19⟩, ⟨18⟩] := by
    refine ascending.eq_of_mem_iff before fun id => ?_
    constructor
    · intro member
      simpa [collected, or_comm] using ((members id).mp member).1
    · intro member
      rcases List.mem_pair.mp member with rfl | rfl
      · exact there
      · exact here
  have names : ["java.util.Map", "org.b.C"] = java ++ others :=
    Except.ok.inj ((mapM_eq_ok_iff.mpr (.cons fullName' (.cons fullName .nil))).symm.trans
      (mapM_eq_ok_iff.mpr named))
  obtain ⟨rfl, rfl⟩ : java = ["java.util.Map"] ∧ others = ["org.b.C"] := by
    rcases List.cons_eq_append_iff.mp names with ⟨rfl, rfl⟩ | ⟨rest, rfl, behind⟩
    · exact absurd (by decide) (outside _ List.mem_cons_self)
    · rcases List.cons_eq_append_iff.mp behind with ⟨rfl, rfl⟩ | ⟨last, rfl, _⟩
      · exact ⟨rfl, rfl⟩
      · exact absurd (inside "org.b.C" (by simp)) (by decide)
  exact ⟨leads, leads', registry', collected, collected', listed, same.trans listed, rendered,
    rendered'⟩

end Session

end JavaTypes
