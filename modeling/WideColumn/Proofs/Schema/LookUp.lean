/-
# Which violations are found at their places

A violation is reported at a dotted place, which is made of its routes, and a place is looked up by
its segments, empty ones left out.  A dot inside a route is not told from one between two routes,
and an empty route leaves nothing behind.  So a violation is looked up not under its routes but
under the segments of its routes (`Finding.segments_place`), and it is found if and only if these
are the same or happen to lead to an equal violation (`mem_violationsAt_ofFindings_iff`).

The routes are of two kinds.

* NAMES of entities, user types, fields, functions and parameters.  They come back if they are not
  empty and have no dot (`Plain`).  The rules want more of the names of all but functions; they
  report a name they refuse under that name.
* SIGNATURES of functions.  They begin with the keyspace of the function, if it has one, and then
  have a dot behind it.  No rule is broken by that, and such a signature never comes back.

So where names are plain, all that is reported is found at its place, but for the rules about
functions: what they report is found exactly if there is no dot in the signature
(`reported_found_iff`).
-/
import WideColumn.Proofs.Schema.Locality
import WideColumn.Proofs.Schema.Merge
import WideColumn.Proofs.Schema.TypeReference

namespace WideColumn.Schema

variable {d : Declaration} {registry : Registry} {defaults : Defaults} {types : List UserType}
  {place route s : String} {path : List String} {fs gs : List Finding} {vs : List Violation}
  {v : Violation} {n : Nat}

/-! ## 1. Segments of places -/

/-- **A route that comes back** when its place is cut at the dots. -/
def Plain (route : String) : Prop := route ≠ "" ∧ '.' ∉ route.toList

instance : Decidable (Plain route) := inferInstanceAs (Decidable (_ ∧ _))

namespace ErrorTree

theorem segments_append_dot (a b : String) :
    segments (a ++ "." ++ b) = segments a ++ segments b := by
  have hdot : (a ++ "." ++ b).toList = a.toList ++ '.' :: b.toList := by simp
  rw [segments, hdot, List.splitOn_append_cons_self, List.filter_append, List.map_append]
  rfl

theorem segments_extend (place route : String) :
    segments (extend place route) = segments place ++ segments route := by
  rw [extend]
  split
  · rename_i hempty
    rw [String.isEmpty_iff.mp hempty]
    rfl
  · exact segments_append_dot place route

/-- The segments of a row of routes below a place. -/
theorem segments_foldl_extend :
    segments (path.foldl extend place) = segments place ++ path.flatMap segments := by
  induction path generalizing place with
  | nil => simp
  | cons r path ih =>
    rw [List.foldl_cons, ih, segments_extend, List.flatMap_cons, List.append_assoc]

theorem segments_of_plain (h : Plain route) : segments route = [route] := by
  have hchars : route.toList ≠ [] := String.toList_eq_nil_iff.not.mpr h.1
  rw [segments, List.splitOn_eq_singleton h.2]
  simp [hchars, String.ofList_toList]

theorem flatMap_segments (h : ∀ route ∈ path, Plain route) : path.flatMap segments = path := by
  rw [List.flatMap_congr fun route hroute => segments_of_plain (h route hroute)]
  exact List.flatMap_singleton' path

/-- Cutting a text at its dots leaves out the dots and nothing else. -/
theorem flatten_splitOn (cs : List Char) : (cs.splitOn '.').flatten = cs.filter (· != '.') := by
  induction cs with
  | nil => rfl
  | cons c cs ih =>
    rw [List.splitOn_cons_eq_if_modifyHead, List.filter_cons, ← ih]
    by_cases hdot : c = '.'
    · simp [hdot]
    · obtain ⟨w, ws, hws⟩ := List.exists_cons_of_ne_nil (List.splitOn_ne_nil '.' cs)
      simp [hdot, hws]

/-- A text with a character that is no dot has a segment. -/
theorem segments_ne_nil {c : Char} (hc : c ∈ s.toList) (hdot : c ≠ '.') : segments s ≠ [] := by
  have hflat : c ∈ (s.toList.splitOn '.').flatten := by
    rw [flatten_splitOn]
    exact List.mem_filter.mpr ⟨hc, bne_iff_ne.mpr hdot⟩
  obtain ⟨w, hw, hcw⟩ := List.mem_flatten.mp hflat
  have hkeep : w ∈ (s.toList.splitOn '.').filter (!·.isEmpty) :=
    List.mem_filter.mpr ⟨hw, by simpa using List.ne_nil_of_mem hcw⟩
  exact List.ne_nil_of_mem (List.mem_map_of_mem hkeep)

/-- A text with a dot that neither begins nor ends with one has several segments. -/
theorem two_le_length_segments (hdot : '.' ∈ s.toList) (hhead : s.toList.head? ≠ some '.')
    (hlast : s.toList.getLast? ≠ some '.') : 2 ≤ (segments s).length := by
  obtain ⟨before, after, hs⟩ := List.append_of_mem hdot
  have hcut : s = String.ofList before ++ "." ++ String.ofList after :=
    String.toList_inj.mp (by simp [hs])
  have hbefore : segments (String.ofList before) ≠ [] := by
    cases before with
    | nil => simp [hs] at hhead
    | cons c rest =>
      refine segments_ne_nil (c := c) (by simp) ?_
      rintro rfl
      simp [hs] at hhead
  have hafter : segments (String.ofList after) ≠ [] := by
    rcases List.eq_nil_or_concat' after with rfl | ⟨rest, c, rfl⟩
    · simp [hs] at hlast
    · refine segments_ne_nil (c := c) (by simp) ?_
      rintro rfl
      rw [hs, ← List.cons_append, ← List.append_assoc, List.getLast?_concat] at hlast
      exact hlast rfl
  rw [hcut, segments_append_dot, List.length_append]
  have := List.length_pos_iff.mpr hbefore
  have := List.length_pos_iff.mpr hafter
  omega

end ErrorTree

open ErrorTree (segments ofFindings)

/-- **The segments of the place of a finding** are those of its routes. -/
theorem Finding.segments_place (f : Finding) : segments f.place = f.path.flatMap segments :=
  ErrorTree.segments_foldl_extend

/-! ## 2. What is looked up among findings -/

/-- Of findings under a route, those that lie at a row of routes from there. -/
theorem map_filter_below :
    ((below route fs).filter (·.path == path)).map (·.violation) =
      (fs.filter (·.path == route :: path)).map (·.violation) := by
  induction fs with
  | nil => rfl
  | cons f fs ih =>
    obtain ⟨_ | ⟨r, rest⟩, v⟩ := f
    · simpa [below, Finding.below?, List.filterMap_cons] using ih
    · by_cases hr : r = route
      · by_cases hrest : rest = path <;> simpa [below, Finding.below?, hr, hrest] using ih
      · simpa [below, Finding.below?, hr] using ih

theorem violations_ofFindings :
    (ofFindings fs).violations = (fs.filter (·.path == [])).map (·.violation) := by
  have hstep : ∀ (t : ErrorTree) (f : Finding), (t.insert f).violations =
      t.violations ++ ([f].filter (·.path == [])).map (·.violation) := by
    rintro ⟨ws, cs⟩ ⟨_ | ⟨r, rest⟩, v⟩
    · rfl
    · exact (List.append_nil ws).symm
  have hfold : ∀ t : ErrorTree, (fs.foldl ErrorTree.insert t).violations =
      t.violations ++ (fs.filter (·.path == [])).map (·.violation) := by
    induction fs with
    | nil => simp
    | cons f fs ih =>
      intro t
      rw [List.foldl_cons, ih, hstep, List.append_assoc, ← List.map_append, ← List.filter_append,
        List.singleton_append]
  exact hfold .empty

/-- **What is looked up in a tree of findings** is what was found at the segments of the place. -/
theorem violationsAt_ofFindings :
    (ofFindings fs).violationsAt place =
      (fs.filter (·.path == segments place)).map (·.violation) := by
  have hempty : ∀ path, ((ErrorTree.empty.find? path).map ErrorTree.violations).getD [] = [] := by
    rintro (_ | ⟨r, path⟩) <;> rfl
  have hpath : ∀ path : List String,
      (((ofFindings fs).find? path).map ErrorTree.violations).getD [] =
        (fs.filter (·.path == path)).map (·.violation) := by
    intro path
    induction path generalizing fs with
    | nil => exact violations_ofFindings
    | cons r path ih =>
      have hchild := ErrorTree.child_ofFindings fs r
      rw [ErrorTree.child] at hchild
      rw [ErrorTree.find?_cons, ← map_filter_below, ← ih, ← hchild]
      cases (ofFindings fs).children.lookup r with
      | none => exact (hempty path).symm
      | some c => rfl
  exact hpath (segments place)

theorem mem_violationsAt_ofFindings_iff :
    v ∈ (ofFindings fs).violationsAt place ↔
      ∃ f ∈ fs, f.path = segments place ∧ f.violation = v := by
  simp [violationsAt_ofFindings, and_assoc]

/-! ## 3. Names as routes -/

/-- **Findings that lie at most so many routes deep**, under routes that come back. -/
def Within (n : Nat) (fs : List Finding) : Prop :=
  ∀ f ∈ fs, f.path.length ≤ n ∧ ∀ route ∈ f.path, Plain route

@[simp] theorem within_nil : Within n [] := List.forall_mem_nil _

@[simp] theorem within_append : Within n (fs ++ gs) ↔ Within n fs ∧ Within n gs :=
  List.forall_mem_append

@[simp] theorem within_map_here : Within n (vs.map .here) :=
  List.forall_mem_map.mpr fun _ _ => ⟨Nat.zero_le n, List.forall_mem_nil _⟩

theorem within_here : Within n [.here v] :=
  List.forall_mem_singleton.mpr ⟨Nat.zero_le n, List.forall_mem_nil _⟩

theorem Within.map_under (h : Within n fs) (hroute : Plain route) :
    Within (n + 1) (fs.map (.under route)) := by
  refine List.forall_mem_map.mpr fun f hf => ⟨Nat.succ_le_succ (h f hf).1, ?_⟩
  exact List.forall_mem_cons.mpr ⟨hroute, (h f hf).2⟩

/-- Findings on the items of a row, under the names of the items. -/
theorem within_flatMap_under {α : Type} {name : α → String} {found : α → List Finding}
    {as : List α} (h : ∀ a ∈ as, Plain (name a) ∧ Within n (found a)) :
    Within (n + 1) (as.flatMap fun a => (found a).map (.under (name a))) :=
  List.forall_mem_flatMap.mpr fun a ha => (h a ha).2.map_under (h a ha).1

/-- Violations on the items of a row, under the names of the items. -/
theorem within_flatMap_here {α : Type} {name : α → String} {faults : α → List Violation}
    {as : List α} (h : ∀ a ∈ as, Plain (name a)) :
    Within 1 (as.flatMap fun a => (faults a).map fun v => (Finding.here v).under (name a)) := by
  refine List.forall_mem_flatMap.mpr fun a ha => List.forall_mem_map.mpr fun v _ => ?_
  exact ⟨Nat.le_refl 1, List.forall_mem_singleton.mpr (h a ha)⟩

theorem within_collect {α β : Type} {name : α → String} {make : α → Checked β} {as : List α}
    (h : ∀ a ∈ as, Plain (name a) ∧ Within n (make a).found) :
    Within (n + 1) (collect name make as).1 := by
  rw [collect_eq]
  exact within_flatMap_under h

/-! ### Rules -/

theorem within_keyFindings {e : Entity} (h : ∀ f ∈ e.fields, Plain f.name) :
    Within 1 (keyFindings e) := by
  rw [keyFindings, within_append]
  refine ⟨within_map_here, ?_⟩
  split
  · refine List.forall_mem_map.mpr fun f hf => ⟨Nat.le_refl 1, List.forall_mem_singleton.mpr ?_⟩
    exact h f (List.mem_of_mem_filter hf)
  · exact within_nil

theorem within_entityFindings {e : Entity} (h : ∀ f ∈ e.fields, Plain f.name) :
    Within 1 (entityFindings types registry e) := by
  simp only [entityFindings, onFields, within_append, within_map_here, within_keyFindings h,
    within_flatMap_here h, and_self]

theorem within_viewFindings {view : Entity} {base : Option Entity}
    (h : ∀ f ∈ view.fields, Plain f.name) : Within 1 (viewFindings view base) := by
  rw [viewFindings.eq_def]
  split
  · exact within_nil
  · exact within_here
  · exact within_append.mpr ⟨within_map_here, within_flatMap_here h⟩

theorem within_userTypeFindings {u : UserType} (h : ∀ f ∈ u.fields, Plain f.name) :
    Within 1 (userTypeFindings types u) := by
  rw [userTypeFindings, within_append, within_append]
  refine ⟨⟨within_map_here, within_flatMap_here h⟩, ?_⟩
  split
  · exact within_here
  · exact within_nil

/-- All rules but those about functions report under names, at most two of them. -/
theorem findings_eq_within_append {entities : List Entity} {functions : List Function}
    (htypes : ∀ u ∈ types, Plain u.name ∧ ∀ f ∈ u.fields, Plain f.name)
    (hentities : ∀ e ∈ entities, Plain e.name ∧ ∀ f ∈ e.fields, Plain f.name) :
    ∃ gs, findings entities types functions registry =
        gs ++ (functionFindings types [] functions).map (.under "function")
      ∧ Within 2 gs := by
  refine ⟨_, by rw [findings], ?_⟩
  simp only [within_append, within_map_here, and_true]
  refine ⟨⟨⟨?userTypes, ?tables⟩, ?views⟩, ?shared⟩
  case userTypes =>
    exact within_flatMap_under fun u hu =>
      ⟨(htypes u hu).1, within_userTypeFindings (htypes u hu).2⟩
  case tables =>
    refine within_flatMap_under fun e he => ?_
    obtain ⟨hname, hfields⟩ := hentities e (List.mem_of_mem_filter he)
    exact ⟨hname, within_entityFindings hfields⟩
  case views =>
    refine within_flatMap_under fun e he => ?_
    obtain ⟨hname, hfields⟩ := hentities e (List.mem_of_mem_filter he)
    exact ⟨hname, within_append.mpr ⟨within_entityFindings hfields, within_viewFindings hfields⟩⟩
  case shared =>
    exact List.forall_mem_map.mpr fun _ _ => ⟨Nat.zero_le 2, List.forall_mem_nil _⟩

/-! ### Reading -/

theorem within_userType {u : Declaration.UserType} {declared : List Declaration.UserType}
    (h : ∀ f ∈ u.fields, Plain f.name) :
    Within 1 (UserType.ofDeclaration defaults declared u).found := by
  rw [UserType.ofDeclaration, found_bind_collectAll]
  refine within_collect fun f hf => ⟨h f hf, ?_⟩
  rw [TypeField.ofDeclaration]
  split
  · exact within_nil
  · exact within_here

theorem within_entity {e : Declaration.Entity} (h : ∀ f ∈ e.fields, Plain f.name) :
    Within 1 (Entity.ofDeclaration defaults types e).found := by
  rw [Entity.ofDeclaration, found_bind_collectAll]
  refine within_collect fun f hf => ⟨h f hf, ?_⟩
  rw [Field.ofDeclaration]
  split
  · exact within_map_here
  · dsimp only
    split
    · exact within_nil
    · exact within_map_here

/-- What keeps a type of a function from being read is that it does not parse. -/
theorem found_plainShape {names : TypeNames} {type : String} :
    ∀ f ∈ (plainShape names type).found, ∃ cause, f = .here (.typeParse cause) := by
  rw [plainShape]
  split
  · exact List.forall_mem_nil _
  · rename_i cause _
    exact List.forall_mem_singleton.mpr ⟨cause, rfl⟩

theorem within_plainShape {names : TypeNames} {type : String} :
    Within 0 (plainShape names type).found := by
  intro f hf
  obtain ⟨cause, rfl⟩ := found_plainShape f hf
  exact ⟨Nat.le_refl 0, List.forall_mem_nil _⟩

theorem within_function {f : Declaration.Function} (h : ∀ p ∈ f.parameters, Plain p.name) :
    Within 1 (Function.ofDeclaration defaults types f).found := by
  rw [found_function, within_append]
  refine ⟨within_flatMap_under fun p hp => ⟨h p hp, within_plainShape⟩, ?_⟩
  exact within_plainShape.map_under (by decide)

/-! ## 4. Signatures as routes -/

/-- Whether a violation is one of the rules about functions. -/
def Violation.isOfFunction : Violation → Bool
  | duplicateFunction _ | unknownFunctionType _ => true
  | _ => false

/-- What is found while a function is read is not of the rules about functions. -/
theorem isOfFunction_of_found {df : Declaration.Function} :
    ∀ f ∈ (Function.ofDeclaration defaults types df).found, f.violation.isOfFunction = false := by
  rw [found_function]
  refine List.forall_mem_append.mpr ⟨List.forall_mem_flatMap.mpr fun p _ => ?_, ?_⟩
  all_goals
    refine List.forall_mem_map.mpr fun f hf => ?_
    obtain ⟨cause, rfl⟩ := found_plainShape f hf
    rfl

/-- The rules about functions report under signatures. -/
theorem path_of_mem_functionFindings {f : Finding} {functions : List Function} {seen : List String}
    (h : f ∈ functionFindings types seen functions) :
    f.violation.isOfFunction = true ∧ ∃ g ∈ functions, f.path = [g.signature] := by
  induction functions generalizing seen with
  | nil => cases h
  | cons g gs ih =>
    rw [functionFindings, List.mem_append, List.mem_map] at h
    rcases h with ⟨v, hv, rfl⟩ | h
    · refine ⟨?_, g, List.mem_cons_self, rfl⟩
      rcases List.mem_append.mp hv with hv | hv
      · rw [signatureFaults] at hv
        split at hv
        · obtain rfl := List.mem_singleton.mp hv
          rfl
        · cases hv
      · obtain ⟨shape, -, rfl⟩ := List.mem_map.mp hv
        rfl
    · obtain ⟨hv, g', hg', hpath⟩ := ih h
      exact ⟨hv, g', List.mem_cons_of_mem _ hg', hpath⟩

/-- **A finding under names**, at most two if it is of the rules about functions. -/
structure Finding.UnderNames (f : Finding) : Prop where
  plain : ∀ route ∈ f.path, Plain route
  short : f.violation.isOfFunction = true → f.path.length ≤ 2

theorem Within.underNames {f : Finding} (h : Within 2 fs) (hf : f ∈ fs) : f.UnderNames :=
  ⟨(h f hf).2, fun _ => (h f hf).1⟩

namespace Function

variable {g : Function}

/-- The keyspace of a function stands before a dot in its signature. -/
theorem dot_mem_signature (h : g.keyspace.isSome = true) : '.' ∈ g.signature.toList := by
  obtain ⟨k, hk⟩ := Option.isSome_iff_exists.mp h
  simp [signature, qualifiedName, qualify, hk]

theorem getLast?_signature : g.signature.toList.getLast? = some ')' := by
  rw [signature, String.toList_append]
  exact List.getLast?_concat

theorem head?_signature (hname : Plain g.name) (hkeyspace : ∀ k ∈ g.keyspace, Plain k) :
    g.signature.toList.head? ≠ some '.' := by
  have hfirst : ∀ {s : String} (rest : List Char), Plain s →
      (s.toList ++ rest).head? ≠ some '.' := by
    intro s rest hs hdot
    have hchars : s.toList ≠ [] := String.toList_eq_nil_iff.not.mpr hs.1
    rw [List.head?_append_of_ne_nil _ hchars] at hdot
    exact hs.2 (List.mem_of_mem_head? hdot)
  rw [signature, qualifiedName, qualify.eq_def]
  cases hk : g.keyspace with
  | none => simpa only [String.toList_append, List.append_assoc] using hfirst _ hname
  | some k =>
    simpa only [String.toList_append, List.append_assoc] using hfirst _ (hkeyspace k hk)

theorem plain_signature (h : '.' ∉ g.signature.toList) : Plain g.signature := by
  refine ⟨fun hempty => ?_, h⟩
  have hlast := g.getLast?_signature
  rw [hempty] at hlast
  cases hlast

/-- A signature with a dot falls apart where it is looked up. -/
theorem two_le_length_segments (hname : Plain g.name) (hkeyspace : ∀ k ∈ g.keyspace, Plain k)
    (hdot : '.' ∈ g.signature.toList) : 2 ≤ (segments g.signature).length :=
  ErrorTree.two_le_length_segments hdot (head?_signature hname hkeyspace)
    (by rw [getLast?_signature]; decide)

/-- What is made of the declaration of a function has its name and its keyspace. -/
theorem names_of_ofDeclaration {df : Declaration.Function}
    (h : Function.ofDeclaration defaults types df = .ok g) :
    g.name = df.name ∧ g.keyspace = (df.keyspace <|> defaults.keyspace) := by
  rw [Function.ofDeclaration] at h
  dsimp only at h
  split at h
  · cases h
    exact ⟨rfl, rfl⟩
  · cases h
  · cases h

end Function

/-! ## 5. What is looked up of a batch -/

/-- **The names of a batch come back as routes**: those of entities, user types and functions and of
their fields and parameters.  So do the keyspaces of functions. -/
structure PlainNames (d : Declaration) (defaults : Defaults) : Prop where
  userTypes : ∀ u ∈ d.userTypes, Plain u.name ∧ ∀ f ∈ u.fields, Plain f.name
  entities : ∀ e ∈ d.entities, Plain e.name ∧ ∀ f ∈ e.fields, Plain f.name
  functions : ∀ f ∈ d.functions, Plain f.name ∧ (∀ p ∈ f.parameters, Plain p.name)
    ∧ ∀ k ∈ f.keyspace <|> defaults.keyspace, Plain k

namespace PlainNames

variable (h : PlainNames d defaults)
include h

theorem made_userTypes :
    ∀ u ∈ (extraction d defaults).userTypes, Plain u.name ∧ ∀ f ∈ u.fields, Plain f.name := by
  intro u hu
  obtain ⟨du, hdu, hmake⟩ := exists_of_mem_collect u hu
  obtain ⟨fields, hfields, rfl⟩ := UserType.eq_of_ofDeclaration hmake
  refine ⟨(h.userTypes du hdu).1, fun f hf => ?_⟩
  obtain ⟨df, hdf, hmake⟩ := exists_of_mem_collectAll hfields f hf
  exact (TypeField.readAs_of_ofDeclaration hmake).1 ▸ (h.userTypes du hdu).2 df hdf

theorem made_entities :
    ∀ e ∈ (extraction d defaults).entities, Plain e.name ∧ ∀ f ∈ e.fields, Plain f.name := by
  intro e he
  obtain ⟨de, hde, hmake⟩ := exists_of_mem_collect e he
  obtain ⟨fields, hfields, rfl⟩ := Entity.eq_of_ofDeclaration hmake
  refine ⟨(h.entities de hde).1, fun f hf => ?_⟩
  obtain ⟨df, hdf, hmake⟩ := exists_of_mem_collectAll hfields f hf
  exact (Field.keepsTo_of_ofDeclaration hmake).name ▸ (h.entities de hde).2 df hdf

theorem made_functions :
    ∀ g ∈ (extraction d defaults).functions, Plain g.name ∧ ∀ k ∈ g.keyspace, Plain k := by
  intro g hg
  obtain ⟨df, hdf, hmake⟩ := exists_of_mem_collect g hg
  obtain ⟨hname, hkeyspace⟩ := Function.names_of_ofDeclaration hmake
  rw [hname, hkeyspace]
  exact ⟨(h.functions df hdf).1, (h.functions df hdf).2.2⟩

/-- What the rules find on a batch, those about functions last. -/
theorem validation_eq_within_append (registry : Registry) :
    ∃ gs, validation d registry defaults =
        gs ++ (functionFindings (extraction d defaults).userTypes []
          (extraction d defaults).functions).map (.under "function")
      ∧ Within 2 gs :=
  findings_eq_within_append h.made_userTypes
    fun e he => h.made_entities e (List.mem_of_mem_filter he)

/-- What is found while a batch is read lies under names. -/
theorem underNames_of_read {f : Finding} (hf : f ∈ (extraction d defaults).found) :
    f.UnderNames := by
  rcases List.mem_append.mp hf with hf | hfunction
  · rcases List.mem_append.mp hf with htype | hentity
    · refine (within_collect fun u hu => ?_).underNames htype
      exact ⟨(h.userTypes u hu).1, within_userType (h.userTypes u hu).2⟩
    · refine (within_collect fun e he => ?_).underNames hentity
      exact ⟨(h.entities e he).1, within_entity (h.entities e he).2⟩
  · obtain ⟨below, hbelow, rfl⟩ := List.mem_map.mp hfunction
    rw [collect_eq] at hbelow
    obtain ⟨df, hdf, hbelow⟩ := List.mem_flatMap.mp hbelow
    obtain ⟨found, hfound, rfl⟩ := List.mem_map.mp hbelow
    obtain ⟨hname, hparameters, -⟩ := h.functions df hdf
    -- Routes may be three here, but this is not of the rules about functions.
    have hread : found.violation.isOfFunction = false := isOfFunction_of_found found hfound
    refine ⟨?_, fun hv => absurd (hv.symm.trans hread) Bool.noConfusion⟩
    exact List.forall_mem_cons.mpr ⟨by decide,
      List.forall_mem_cons.mpr ⟨hname, (within_function hparameters found hfound).2⟩⟩

/-- Where a finding of a batch lies: under names, or else it is of the rules about functions and
lies under a signature. -/
theorem path_of_found {f : Finding}
    (hf : f ∈ (extraction d defaults).found ++ validation d registry defaults) :
    f.UnderNames ∨ f.violation.isOfFunction = true
      ∧ ∃ g ∈ (extraction d defaults).functions, f.path = ["function", g.signature] := by
  rcases List.mem_append.mp hf with hread | hrules
  · exact .inl (h.underNames_of_read hread)
  · obtain ⟨gs, heq, hwithin⟩ := h.validation_eq_within_append registry
    rcases List.mem_append.mp (heq ▸ hrules) with hnames | hfunction
    · exact .inl (hwithin.underNames hnames)
    · obtain ⟨found, hfound, rfl⟩ := List.mem_map.mp hfunction
      obtain ⟨hv, g, hg, hpath⟩ := path_of_mem_functionFindings hfound
      exact .inr ⟨hv, g, hg, congrArg ("function" :: ·) hpath⟩

/-- A violation of the rules about functions is found nowhere if its place has a dotted signature:
it lies two routes deep, and the place has three segments. -/
theorem not_mem_violationsAt_signature {g : Function} (hg : g ∈ (extraction d defaults).functions)
    (hdot : '.' ∈ g.signature.toList) (hfunction : v.isOfFunction = true) :
    v ∉ (reported d registry defaults).violationsAt ("function." ++ g.signature) := by
  rw [reported_eq, mem_violationsAt_ofFindings_iff]
  rintro ⟨f, hf, hpath, rfl⟩
  obtain ⟨hname, hkeyspace⟩ := h.made_functions g hg
  have hsegments : segments ("function." ++ g.signature) = "function" :: segments g.signature :=
    ErrorTree.segments_append_dot "function" g.signature
  have hshort : f.path.length ≤ 2 := by
    rcases h.path_of_found hf with hnames | ⟨-, g', -, hpath'⟩
    · exact hnames.short hfunction
    · rw [hpath']
      exact Nat.le_refl 2
  have hlong := Function.two_le_length_segments hname hkeyspace hdot
  rw [hpath, hsegments, List.length_cons] at hshort
  omega

/-- **What is looked up where names are plain**: what is found under them, and of the rules about
functions what they report under a signature without a dot. -/
theorem mem_violationsAt_iff
    (hv : (place, v) ∈ (reported d registry defaults).flatten) :
    v ∈ (reported d registry defaults).violationsAt place ↔
      ¬(v.isOfFunction = true ∧ ∃ g ∈ (extraction d defaults).functions,
        place = "function." ++ g.signature ∧ '.' ∈ g.signature.toList) := by
  constructor
  · rintro hfound ⟨hfunction, g, hg, rfl, hdot⟩
    exact h.not_mem_violationsAt_signature hg hdot hfunction hfound
  · intro hundotted
    rw [reported_eq] at hv ⊢
    obtain ⟨f, hf, rfl, rfl⟩ := ErrorTree.mem_flatten_ofFindings.mp hv
    have hroutes : ∀ route ∈ f.path, Plain route := by
      rcases h.path_of_found hf with hnames | ⟨hfunction, g, hg, hpath⟩
      · exact hnames.plain
      · have hplace : f.place = "function." ++ g.signature := by
          rw [Finding.place, hpath]
          rfl
        have hdot : '.' ∉ g.signature.toList :=
          fun hdot => hundotted ⟨hfunction, g, hg, hplace, hdot⟩
        rw [hpath]
        exact List.forall_mem_cons.mpr
          ⟨by decide, List.forall_mem_singleton.mpr (Function.plain_signature hdot)⟩
    refine mem_violationsAt_ofFindings_iff.mpr ⟨f, hf, ?_, rfl⟩
    rw [f.segments_place, ErrorTree.flatMap_segments hroutes]

end PlainNames

theorem reported_of_load {t : ErrorTree} (h : load d registry defaults = .error t) :
    reported d registry defaults = t := by
  rw [reported, h]

/-- **Which violations are found at their places.**  Of what is reported at a place, it is found
there exactly what was found at the segments of the place.  So where names are plain, everything is
found but what the rules about functions report under a signature with a dot, and that never is.
Functions in a keyspace have such a signature. -/
theorem reported_found_iff {t : ErrorTree} (h : load d registry defaults = .error t)
    (hv : (place, v) ∈ t.flatten) :
    (v ∈ t.violationsAt place ↔
        ∃ f ∈ (extraction d defaults).found ++ validation d registry defaults,
          f.path = segments place ∧ f.violation = v)
      ∧ (PlainNames d defaults → (v ∈ t.violationsAt place ↔
        ¬(v.isOfFunction = true ∧ ∃ g ∈ (extraction d defaults).functions,
          place = "function." ++ g.signature ∧ '.' ∈ g.signature.toList)))
      ∧ ∀ g ∈ (extraction d defaults).functions,
        g.keyspace.isSome = true → '.' ∈ g.signature.toList := by
  obtain rfl := reported_of_load h
  refine ⟨?_, fun hnames => hnames.mem_violationsAt_iff hv, fun g _ => g.dot_mem_signature⟩
  rw [reported_eq, mem_violationsAt_ofFindings_iff]

theorem load_of_mem_reported {e : String × Violation}
    (h : e ∈ (reported d registry defaults).flatten) :
    load d registry defaults = .error (reported d registry defaults) := by
  rw [reported] at h ⊢
  cases hload : load d registry defaults with
  | ok s => simp [hload, ErrorTree.empty, ErrorTree.flatten, ErrorTree.flattenBelow,
      ErrorTree.flattenAll] at h
  | error t => rfl

/-- A shop without a key, and a function of its keyspace that is declared twice. -/
def shopAreas : Declaration where
  entities := [{ name := "Shop", fields := [.typed "name" "text"] }]
  functions :=
    let area : Declaration.Function := {
      keyspace := some "shop"
      name := "area"
      parameters := [⟨"side", "int"⟩]
      returns := "int" }
    [area, area]

theorem reported_found_iff_shop :
    load shopAreas {} {} = .error (reported shopAreas {} {})
      ∧ PlainNames shopAreas {}
      ∧ ("Shop", .missingPartitionKey) ∈ (reported shopAreas {} {}).flatten
      ∧ .missingPartitionKey ∈ (reported shopAreas {} {}).violationsAt "Shop"
      ∧ ("function.shop.area(int)", .duplicateFunction "shop.area(int)")
        ∈ (reported shopAreas {} {}).flatten
      ∧ .duplicateFunction "shop.area(int)"
        ∉ (reported shopAreas {} {}).violationsAt "function.shop.area(int)" := by
  have hkey : ("Shop", .missingPartitionKey) ∈ (reported shopAreas {} {}).flatten := by
    decide +kernel
  have hfunction : ("function.shop.area(int)", .duplicateFunction "shop.area(int)")
      ∈ (reported shopAreas {} {}).flatten := by decide +kernel
  have hload := load_of_mem_reported hkey
  have hnames : PlainNames shopAreas {} := ⟨by decide, by decide, by decide⟩
  obtain ⟨-, hkey_iff, -⟩ := reported_found_iff hload hkey
  obtain ⟨-, hfunction_iff, hdot⟩ := reported_found_iff hload hfunction
  refine ⟨hload, hnames, hkey, (hkey_iff hnames).mpr fun hv => ?_, hfunction, fun hfound => ?_⟩
  · cases hv.1
  · have hmade : ∃ g ∈ (extraction shopAreas {}).functions, g.keyspace.isSome = true
        ∧ "function.shop.area(int)" = "function." ++ g.signature := by decide +kernel
    obtain ⟨g, hg, hkeyspace, hplace⟩ := hmade
    exact (hfunction_iff hnames).mp hfound ⟨rfl, g, hg, hplace, hdot g hg hkeyspace⟩

/-- A table whose name has a dot. -/
def dottedShop : Declaration where
  entities := [{
    name := "Shop.Area"
    fields := [(Declaration.Field.typed "name" "text").inPartition 0] }]

/-- **What is reported is not always found at its place**: neither under a signature that begins
with a keyspace, nor under a name that was refused for its dot. -/
theorem reported_not_found :
    (∃ t, load shopAreas {} {} = .error t
        ∧ ("function.shop.area(int)", .duplicateFunction "shop.area(int)") ∈ t.flatten
        ∧ .duplicateFunction "shop.area(int)" ∉ t.violationsAt "function.shop.area(int)")
      ∧ ∃ t, load dottedShop {} {} = .error t
        ∧ ("Shop.Area", .invalidIdentifier "Shop.Area" .badCharacter) ∈ t.flatten
        ∧ .invalidIdentifier "Shop.Area" .badCharacter ∉ t.violationsAt "Shop.Area" := by
  have harea : ("function.shop.area(int)", .duplicateFunction "shop.area(int)")
      ∈ (reported shopAreas {} {}).flatten := by decide +kernel
  have hname : ("Shop.Area", .invalidIdentifier "Shop.Area" .badCharacter)
      ∈ (reported dottedShop {} {}).flatten := by decide +kernel
  exact ⟨⟨_, load_of_mem_reported harea, harea, by decide +kernel⟩,
    ⟨_, load_of_mem_reported hname, hname, by decide +kernel⟩⟩

end WideColumn.Schema
