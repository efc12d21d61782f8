/-
# Cases keep words plain

An identifier is cut into words and put together again in another case.  If all its characters are
ASCII letters, digits and underscores, so are those of what comes out.  In snake case the result
also begins as the identifier did: with a letter, since a letter is no delimiter and the first word
is not empty.  So a plain word is one in snake case as well (`isPlainWord_snakeCase`).
-/
import WideColumn.Proofs.Source.Name
import WideColumn.Text.Words

namespace WideColumn.Text

open WideColumn.Source

/-! ## 1. Characters of words -/

theorem mem_clustersFrom {cs current : List Char} :
    ∀ cluster ∈ clustersFrom current cs, ∀ c ∈ cluster, c ∈ current ∨ c ∈ cs := by
  induction cs generalizing current with
  | nil =>
    intro cluster hcluster c hc
    rw [clustersFrom] at hcluster
    split at hcluster
    · cases hcluster
    · obtain rfl := List.mem_singleton.mp hcluster
      exact .inl (List.mem_reverse.mp hc)
  | cons d rest ih =>
    intro cluster hcluster c hc
    rw [clustersFrom] at hcluster
    split at hcluster
    · rcases ih cluster hcluster c hc with hc | hc
      · rcases List.mem_cons.mp hc with rfl | hc
        · exact .inr List.mem_cons_self
        · exact .inl hc
      · exact .inr (List.mem_cons_of_mem _ hc)
    · rcases List.mem_cons.mp hcluster with rfl | hcluster
      · exact .inl (List.mem_reverse.mp hc)
      · rcases ih cluster hcluster c hc with hc | hc
        · exact .inr (List.mem_singleton.mp hc ▸ List.mem_cons_self)
        · exact .inr (List.mem_cons_of_mem _ hc)

theorem mem_cutWords {cs current : List Cluster} :
    ∀ word ∈ cutWords current cs, ∀ c ∈ word, c ∈ current ∨ c ∈ cs := by
  induction cs generalizing current with
  | nil =>
    intro word hword c hc
    obtain rfl := List.mem_singleton.mp hword
    exact .inl (List.mem_reverse.mp hc)
  | cons d rest ih =>
    have hrest : ∀ word ∈ cutWords [] rest, ∀ c ∈ word, c ∈ d :: rest := by
      intro word hword c hc
      exact List.mem_cons_of_mem _ ((ih word hword c hc).resolve_left List.not_mem_nil)
    intro word hword c hc
    rw [cutWords] at hword
    split at hword
    · rcases List.mem_cons.mp hword with rfl | hword
      · exact .inl (List.mem_reverse.mp hc)
      · exact .inr (hrest word hword c hc)
    · split at hword
      · rcases List.mem_cons.mp hword with rfl | hword
        · rcases List.mem_cons.mp (List.mem_reverse.mp hc) with rfl | hc
          · exact .inr List.mem_cons_self
          · exact .inl hc
        · exact .inr (hrest word hword c hc)
      · rcases ih word hword c hc with hc | hc
        · rcases List.mem_cons.mp hc with rfl | hc
          · exact .inr List.mem_cons_self
          · exact .inl hc
        · exact .inr (List.mem_cons_of_mem _ hc)

/-- Words have no characters that the text does not have. -/
theorem mem_words {s : String} : ∀ word ∈ words s, ∀ c ∈ word, c ∈ s.toList := by
  intro word hword c hc
  obtain ⟨pieces, hpieces, rfl⟩ := List.mem_map.mp hword
  obtain ⟨cluster, hcluster, hc⟩ := List.mem_flatten.mp hc
  have hcut := (mem_cutWords pieces hpieces cluster hcluster).resolve_left List.not_mem_nil
  exact (mem_clustersFrom cluster hcut c hc).resolve_left List.not_mem_nil

/-! ## 2. The first word -/

/-- The clusters of a text begin where the text does. -/
theorem exists_clustersFrom {cs current : List Char} (h : current.reverse ++ cs ≠ []) :
    ∃ cluster rest, clustersFrom current cs = cluster :: rest
      ∧ cluster.head? = (current.reverse ++ cs).head? := by
  induction cs generalizing current with
  | nil =>
    have hsome : current ≠ [] := by simpa using h
    refine ⟨current.reverse, [], ?_, by rw [List.append_nil]⟩
    rw [clustersFrom, if_neg (by simpa using hsome)]
  | cons c cs ih =>
    rw [clustersFrom]
    split
    · obtain ⟨cluster, rest, hclusters, hhead⟩ := @ih (c :: current) (by simp)
      exact ⟨cluster, rest, hclusters, by simpa using hhead⟩
    · rename_i hends
      have hsome : current ≠ [] := by
        rintro rfl
        exact hends rfl
      obtain ⟨d, ds, hcurrent⟩ := List.exists_cons_of_ne_nil (List.reverse_ne_nil_iff.mpr hsome)
      exact ⟨current.reverse, _, rfl, by rw [hcurrent]; rfl⟩

/-- The first of the words begins with the word under way. -/
theorem exists_cutWords (current cs : List Cluster) :
    ∃ word rest, cutWords current cs = word :: rest ∧ current.reverse <+: word := by
  induction cs generalizing current with
  | nil => exact ⟨_, [], rfl, List.prefix_rfl⟩
  | cons c cs ih =>
    have hmore : current.reverse <+: (c :: current).reverse := by
      rw [List.reverse_cons]
      exact List.prefix_append _ _
    rw [cutWords]
    split
    · exact ⟨_, _, rfl, List.prefix_rfl⟩
    · split
      · exact ⟨_, _, rfl, hmore⟩
      · obtain ⟨word, rest, hwords, hprefix⟩ := ih (c :: current)
        exact ⟨word, rest, hwords, hmore.trans hprefix⟩

/-- A text that begins with a letter has a first word that begins with it. -/
theorem exists_words {s : String} {c : Char} {cs : List Char} (hs : s.toList = c :: cs)
    (hletter : c.isAlpha = true) : ∃ word rest, words s = (c :: word) :: rest := by
  obtain ⟨cluster, clusters', hclusters, hhead⟩ :=
    @exists_clustersFrom s.toList [] (by simp [hs])
  obtain ⟨marks, rfl⟩ : ∃ marks, cluster = c :: marks := by
    rw [List.reverse_nil, List.nil_append, hs, List.head?_cons] at hhead
    exact List.head?_eq_some_iff.mp hhead
  have hdelimiter : Cluster.isDelimiter (c :: marks) = false := by
    by_contra hdelimiter
    simp only [Cluster.isDelimiter, Bool.not_eq_false, Bool.or_eq_true, beq_iff_eq,
      List.cons.injEq] at hdelimiter
    rcases hdelimiter with (⟨rfl, -⟩ | ⟨rfl, -⟩) | ⟨rfl, -⟩ <;> cases hletter
  have hwords : ∃ word rest, cutWords [] ((c :: marks) :: clusters') = word :: rest
      ∧ [c :: marks] <+: word := by
    rw [cutWords, if_neg (by simp [hdelimiter])]
    split
    · exact ⟨_, _, rfl, List.prefix_rfl⟩
    · exact exists_cutWords [c :: marks] clusters'
  obtain ⟨word, rest, hcut, others, rfl⟩ := hwords
  refine ⟨marks ++ others.flatten, rest.map List.flatten, ?_⟩
  rw [words, clusters, hclusters, hcut]
  simp

/-! ## 3. Plain characters -/

/-- The other case of a plain character is one plain character. -/
theorem isPlainChar_cases {c : Char} (h : isPlainChar c = true) :
    (∀ x ∈ upperChar c, isPlainChar x = true) ∧ (∀ x ∈ lowerChar c, isPlainChar x = true)
      ∧ c ≠ capitalSigma := by
  have hall : ∀ n < 128, isPlainChar (Char.ofNat n) = true →
      (upperChar (Char.ofNat n)).all isPlainChar = true
        ∧ (lowerChar (Char.ofNat n)).all isPlainChar = true
        ∧ Char.ofNat n ≠ capitalSigma := by decide +kernel
  have hascii : c.toNat < 128 := by
    rw [isPlainChar, Bool.and_eq_true] at h
    exact of_decide_eq_true h.1
  have hc := hall c.toNat hascii
  rw [Char.ofNat_toNat] at hc
  obtain ⟨hupper, hlower, hsigma⟩ := hc h
  exact ⟨List.all_eq_true.mp hupper, List.all_eq_true.mp hlower, hsigma⟩

theorem isPlainChar_lowerFrom {cs passed : List Char} (h : ∀ c ∈ cs, isPlainChar c = true) :
    ∀ x ∈ lowerFrom passed cs, isPlainChar x = true := by
  induction cs generalizing passed with
  | nil => simp [lowerFrom]
  | cons c cs ih =>
    rw [List.forall_mem_cons] at h
    obtain ⟨-, hlower, hsigma⟩ := isPlainChar_cases h.1
    simp only [lowerFrom, beq_iff_eq, hsigma, if_false]
    exact List.forall_mem_append.mpr ⟨hlower, ih h.2⟩

/-- **In upper camel case, plain characters stay plain.** -/
theorem isPlainChar_pascalCase {s : String} (h : ∀ c ∈ s.toList, isPlainChar c = true) :
    ∀ x ∈ (pascalCase s).toList, isPlainChar x = true := by
  intro x hx
  rw [pascalCase, String.toList_ofList] at hx
  obtain ⟨word, hword, hx⟩ := List.mem_flatMap.mp hx
  have hplain : ∀ c ∈ word, isPlainChar c = true := fun c hc => h c (mem_words word hword c hc)
  cases word with
  | nil => cases hx
  | cons c rest =>
    rw [List.forall_mem_cons] at hplain
    rcases List.mem_append.mp hx with hx | hx
    · exact (isPlainChar_cases hplain.1).1 x hx
    · exact isPlainChar_lowerFrom hplain.2 x hx

/-- What stands between words is joined in, and nothing else. -/
theorem mem_intercalate {α : Type} {separator : List α} {x : α} :
    ∀ {rows : List (List α)}, x ∈ List.intercalate separator rows →
      x ∈ separator ∨ ∃ row ∈ rows, x ∈ row
  | [], h => by cases h
  | [row], h => .inr ⟨row, List.mem_cons_self, by simpa using h⟩
  | row :: next :: rows, h => by
    rw [List.intercalate_cons_cons, List.mem_append, List.mem_append] at h
    rcases h with (h | h) | h
    · exact .inr ⟨row, List.mem_cons_self, h⟩
    · exact .inl h
    · rcases mem_intercalate h with h | ⟨row', hrow', h⟩
      · exact .inl h
      · exact .inr ⟨row', List.mem_cons_of_mem _ hrow', h⟩

theorem head?_intercalate {α : Type} {separator row : List α} {x : α} {rows : List (List α)} :
    (List.intercalate separator ((x :: row) :: rows)).head? = some x := by
  cases rows with
  | nil => simp
  | cons next rows => rw [List.intercalate_cons_cons]; rfl

/-- The lower case of a letter is a letter. -/
theorem lower_cons_of_isAlpha {c : Char} (hplain : isPlainChar c = true)
    (hletter : c.isAlpha = true) (cs : List Char) :
    lower (c :: cs) = c.toLower :: lowerFrom [c] cs ∧ c.toLower.isAlpha = true := by
  have hall : ∀ n < 128, (Char.ofNat n).isAlpha = true → (Char.ofNat n).toLower.isAlpha = true := by
    decide +kernel
  rw [isPlainChar, Bool.and_eq_true, decide_eq_true_eq] at hplain
  have hc := hall c.toNat hplain.1
  rw [Char.ofNat_toNat] at hc
  have hsigma : (c == capitalSigma) = false := by
    refine beq_eq_false_iff_ne.mpr ?_
    rintro rfl
    cases hletter
  refine ⟨?_, hc hletter⟩
  rw [lower, lowerFrom, hsigma, if_neg (by simp), lowerChar, if_pos hplain.1]
  rfl

/-- **In snake case a plain word is a plain word.** -/
theorem isPlainWord_snakeCase {s : String} (h : IsPlainWord s) : IsPlainWord (snakeCase s) := by
  constructor
  · obtain ⟨c, hc, hletter⟩ := (Option.any_eq_true _ _).mp h.start
    obtain ⟨cs, hcs⟩ := List.head?_eq_some_iff.mp hc
    obtain ⟨word, rest, hwords⟩ := exists_words hcs hletter
    obtain ⟨hlower, hletter⟩ :=
      lower_cons_of_isAlpha (h.chars c (List.mem_of_mem_head? hc)) hletter word
    rw [snakeCase, String.toList_ofList, hwords, List.map_cons, hlower, head?_intercalate]
    exact hletter
  · intro x hx
    rw [snakeCase, String.toList_ofList] at hx
    rcases mem_intercalate hx with hx | ⟨row, hrow, hx⟩
    · obtain rfl := List.mem_singleton.mp hx
      decide
    · obtain ⟨word, hword, rfl⟩ := List.mem_map.mp hrow
      exact isPlainChar_lowerFrom (fun c hc => h.chars c (mem_words word hword c hc)) x hx

end WideColumn.Text
