import ApiGraph.Graph.Naming
import ApiGraph.Proofs.Graph.Listing
import ApiGraph.Proofs.Reference.Pointer

/-!
# Names of handlers

Snake case is written from left to right, and no more than the last character has to be known to
go on. What is written never begins with an underscore and never has two in a row (`Spaced`), so
at the end there is at most one to take away. An underscore that is written behind some text is a
border: what comes after it is written as at the beginning of a text. This is why a path may be
put into snake case segment by segment.

A derived name is the name of the method, an underscore, and what is made of the static path.
Methods have no underscore in their names, so both are known from a derived name. It is the static
path that is not: without static segments `root` stands in for it, and a path may spell just that.
-/

namespace ApiGraph

/-! ### Characters in snake case -/

namespace Text

/-- Every capital with a partner is moved beyond the underscore, which is character 95. -/
theorem underscore_lt_lowercaseRuns :
    ∀ entry ∈ lowercaseRuns, (95 : Int) < entry.1.first + entry.2 := by decide +kernel

theorem lowercase_ne_nil (c : Char) : lowercase c ≠ [] := by
  rw [lowercase]
  split
  · simp
  · split <;> simp

/-- Only an underscore is written as an underscore in lower case. -/
theorem underscore_not_mem_lowercase {c : Char} (h : c ≠ '_') : '_' ∉ lowercase c := by
  rw [lowercase]
  split
  · decide
  · split
    · next run distance hfound =>
      have hmem := List.mem_of_find?_eq_some hfound
      have hholds : run.holds c.toNat = true :=
        List.find?_some (p := fun entry : Run × Int => entry.1.holds c.toNat) hfound
      have habove : (95 : Int) < run.first + distance := underscore_lt_lowercaseRuns _ hmem
      have hfirst : run.first ≤ c.toNat := by
        simp only [Run.holds, Bool.and_eq_true, decide_eq_true_eq] at hholds
        exact hholds.1.1
      rw [List.mem_singleton]
      intro heq
      have hnat : (95 : Nat) = (Char.ofNat (c.toNat + distance).toNat).toNat :=
        congrArg Char.toNat heq
      rw [Char.toNat_ofNat] at hnat
      split at hnat
      · omega
      · cases hnat
    · rw [List.mem_singleton]
      exact Ne.symm h

theorem ne_underscore_of_isAlphanumeric {c : Char} (h : isAlphanumeric c = true) : c ≠ '_' := by
  rintro rfl
  exact absurd h (by decide)

end Text

open Text

/-! ### What is written -/

namespace SnakeCase

/-- A text, the last character first, that does not begin with an underscore and has no two of them
in a row. -/
inductive Spaced : List Char → Prop
  | nil : Spaced []
  | char {c : Char} {w : List Char} (hc : c ≠ '_') (hw : Spaced w) : Spaced (c :: w)
  | gap {c : Char} {w : List Char} (hc : c ≠ '_') (hw : Spaced w) : Spaced ('_' :: c :: w)

theorem breakWord_cons_of_ne {c : Char} (hc : c ≠ '_') (w : List Char) :
    breakWord (c :: w) = '_' :: c :: w := by
  rw [breakWord.eq_def]
  split
  · next heq => cases heq
  · next heq =>
    cases heq
    exact absurd rfl hc
  · rfl

theorem breakWord_breakWord (w : List Char) : breakWord (breakWord w) = breakWord w := by
  cases w with
  | nil => rfl
  | cons c w =>
    by_cases hc : c = '_'
    · subst hc
      rfl
    · rw [breakWord_cons_of_ne hc]
      rfl

theorem breakWord_eq_nil_iff {w : List Char} : breakWord w = [] ↔ w = [] := by
  cases w with
  | nil => exact iff_of_true rfl rfl
  | cons c w =>
    by_cases hc : c = '_'
    · subst hc
      exact iff_of_false (List.cons_ne_nil _ _) (List.cons_ne_nil _ _)
    · rw [breakWord_cons_of_ne hc]
      exact iff_of_false (List.cons_ne_nil _ _) (List.cons_ne_nil _ _)

theorem spaced_breakWord {w : List Char} (h : Spaced w) : Spaced (breakWord w) := by
  cases h with
  | nil => exact .nil
  | char hc hw =>
    rw [breakWord_cons_of_ne hc]
    exact .gap hc hw
  | gap hc hw => exact .gap hc hw

theorem Spaced.append {w new : List Char} (h : Spaced w) (hnew : '_' ∉ new) :
    Spaced (new ++ w) := by
  induction new with
  | nil => exact h
  | cons c new ih =>
    rw [List.mem_cons, not_or] at hnew
    exact .char (Ne.symm hnew.1) (ih hnew.2)

theorem step_of_not_isAlphanumeric {c : Char} (hc : isAlphanumeric c = false) (p : Progress) :
    step p c = ⟨breakWord p.written, false⟩ := by
  rw [step, hc]
  rfl

/-- A letter or digit is written as characters other than the underscore, in front of which a new
word may begin. -/
theorem exists_step_of_isAlphanumeric {c : Char} (hc : isAlphanumeric c = true) (p : Progress) :
    ∃ new, new ≠ [] ∧ '_' ∉ new ∧
      ((step p c).written = new ++ p.written ∨ (step p c).written = new ++ breakWord p.written) := by
  have hne := ne_underscore_of_isAlphanumeric hc
  rw [step, if_pos hc]
  split
  · refine ⟨(lowercase c).reverse, ?_, ?_, ?_⟩
    · exact fun h => lowercase_ne_nil c (List.reverse_eq_nil_iff.mp h)
    · rw [List.mem_reverse]
      exact underscore_not_mem_lowercase hne
    · by_cases hsmall : p.afterSmall = true
      · exact Or.inr (by simp [hsmall])
      · exact Or.inl (by simp [hsmall])
  · exact ⟨[c], List.cons_ne_nil _ _, by simp [Ne.symm hne], Or.inl rfl⟩

theorem spaced_step {p : Progress} (h : Spaced p.written) (c : Char) :
    Spaced (step p c).written := by
  cases hc : isAlphanumeric c with
  | true =>
    obtain ⟨new, _, hnew, hwritten | hwritten⟩ := exists_step_of_isAlphanumeric hc p
    · rw [hwritten]
      exact h.append hnew
    · rw [hwritten]
      exact (spaced_breakWord h).append hnew
  | false =>
    rw [step_of_not_isAlphanumeric hc]
    exact spaced_breakWord h

theorem written_step_eq_nil_iff (p : Progress) (c : Char) :
    (step p c).written = [] ↔ p.written = [] ∧ isAlphanumeric c = false := by
  cases hc : isAlphanumeric c with
  | true =>
    obtain ⟨new, hne, _, hwritten | hwritten⟩ := exists_step_of_isAlphanumeric hc p
    · simp [hwritten, hne]
    · simp [hwritten, hne]
  | false =>
    rw [step_of_not_isAlphanumeric hc, breakWord_eq_nil_iff]
    simp

/-- What is written for a text from its beginning. -/
def written (cs : List Char) : List Char := (cs.foldl step {}).written

theorem spaced_foldl_step (cs : List Char) :
    ∀ p : Progress, Spaced p.written → Spaced (cs.foldl step p).written := by
  induction cs with
  | nil => exact fun _ h => h
  | cons c cs ih => exact fun p h => ih (step p c) (spaced_step h c)

theorem spaced_written (cs : List Char) : Spaced (written cs) :=
  spaced_foldl_step cs {} .nil

theorem written_foldl_step_eq_nil_iff (cs : List Char) :
    ∀ p : Progress, (cs.foldl step p).written = [] ↔
      p.written = [] ∧ ∀ c ∈ cs, isAlphanumeric c = false := by
  induction cs with
  | nil => simp
  | cons c cs ih =>
    intro p
    rw [List.foldl_cons, ih, written_step_eq_nil_iff, List.forall_mem_cons, and_assoc]

theorem written_eq_nil_iff {cs : List Char} :
    written cs = [] ↔ ∀ c ∈ cs, isAlphanumeric c = false := by
  rw [written, written_foldl_step_eq_nil_iff]
  exact and_iff_right rfl

/-! ### Behind a border -/

theorem breakWord_append_breakWord (w u : List Char) :
    breakWord (w ++ breakWord u) = breakWord w ++ breakWord u := by
  cases w with
  | nil => exact breakWord_breakWord u
  | cons c w =>
    by_cases hc : c = '_'
    · subst hc
      rfl
    · rw [List.cons_append, breakWord_cons_of_ne hc, breakWord_cons_of_ne hc]
      rfl

/-- The same progress behind an earlier text. -/
def Progress.behind (p : Progress) (u : List Char) : Progress := ⟨p.written ++ u, p.afterSmall⟩

theorem step_behind (p : Progress) (u : List Char) (c : Char) :
    step (p.behind (breakWord u)) c = (step p c).behind (breakWord u) := by
  cases hc : isAlphanumeric c with
  | true =>
    cases hsmall : p.afterSmall with
    | true =>
      simp only [step, Progress.behind, hc, hsmall, if_true, breakWord_append_breakWord]
      split <;> simp
    | false =>
      simp only [step, Progress.behind, hc, hsmall, if_true, Bool.false_eq_true, if_false]
      split <;> simp
  | false =>
    rw [step_of_not_isAlphanumeric hc, step_of_not_isAlphanumeric hc, Progress.behind,
      Progress.behind, breakWord_append_breakWord]

theorem foldl_step_behind (cs : List Char) (u : List Char) :
    ∀ p : Progress, cs.foldl step (p.behind (breakWord u)) =
      (cs.foldl step p).behind (breakWord u) := by
  induction cs with
  | nil => exact fun _ => rfl
  | cons c cs ih =>
    intro p
    rw [List.foldl_cons, List.foldl_cons, step_behind, ih]

/-- Whatever is no letter or digit parts a text. -/
theorem written_append_cons {c : Char} (hc : isAlphanumeric c = false) (front back : List Char) :
    written (front ++ c :: back) = written back ++ breakWord (written front) := by
  have hstep : step (front.foldl step {}) c =
      (Progress.mk [] false).behind (breakWord (written front)) :=
    step_of_not_isAlphanumeric hc _
  rw [written, List.foldl_append, List.foldl_cons, hstep, foldl_step_behind]
  rfl

/-! ### The finished text -/

/-- A text that neither begins nor ends with an underscore and has no two of them in a row. -/
structure IsSnake (cs : List Char) : Prop where
  begins : cs.head? ≠ some '_'
  ends : cs.getLast? ≠ some '_'
  single : ¬ ['_', '_'] <:+: cs

theorem convert_eq (cs : List Char) :
    convert cs = ((written cs).dropWhile (· = '_')).reverse := rfl

/-- Written text is finished by taking away one underscore, if there is one at the end. -/
theorem Spaced.finished {w : List Char} (h : Spaced w) :
    w = [] ∨ ∃ c t, c ≠ '_' ∧ Spaced t ∧ w.dropWhile (· = '_') = c :: t ∧
      breakWord w = '_' :: c :: t := by
  cases h with
  | nil => exact Or.inl rfl
  | @char c w hc hw => exact Or.inr ⟨c, w, hc, hw, by simp [hc], breakWord_cons_of_ne hc w⟩
  | @gap c w hc hw => exact Or.inr ⟨c, w, hc, hw, by simp [hc], rfl⟩

theorem getLast?_cons_ne {c : Char} {w : List Char} (hc : c ≠ '_') (h : w.getLast? ≠ some '_') :
    (c :: w).getLast? ≠ some '_' := by
  cases w with
  | nil => simpa using hc
  | cons d w =>
    rw [List.getLast?_cons_cons]
    exact h

theorem Spaced.getLast?_ne {w : List Char} (h : Spaced w) : w.getLast? ≠ some '_' := by
  induction h with
  | nil => simp
  | char hc _ ih => exact getLast?_cons_ne hc ih
  | gap hc _ ih =>
    rw [List.getLast?_cons_cons]
    exact getLast?_cons_ne hc ih

theorem not_doubled_cons {c : Char} {w : List Char} (hc : c ≠ '_') (h : ¬ ['_', '_'] <:+: w) :
    ¬ ['_', '_'] <:+: c :: w := by
  rw [List.infix_cons_iff, List.cons_prefix_cons]
  rintro (⟨heq, _⟩ | hinfix)
  · exact hc heq.symm
  · exact h hinfix

theorem Spaced.not_doubled {w : List Char} (h : Spaced w) : ¬ ['_', '_'] <:+: w := by
  induction h with
  | nil => simp
  | char hc _ ih => exact not_doubled_cons hc ih
  | gap hc _ ih =>
    rw [List.infix_cons_iff, List.cons_prefix_cons, List.cons_prefix_cons]
    rintro (⟨_, heq, _⟩ | hinfix)
    · exact hc heq.symm
    · exact not_doubled_cons hc ih hinfix

theorem isSnake_convert (cs : List Char) : IsSnake (convert cs) := by
  rw [convert_eq]
  rcases (spaced_written cs).finished with hnil | ⟨c, t, hc, ht, hdrop, _⟩
  · rw [hnil]
    exact ⟨by simp, by simp, by simp⟩
  · have hspaced : Spaced (c :: t) := .char hc ht
    rw [hdrop]
    constructor
    · rw [List.head?_reverse]
      exact hspaced.getLast?_ne
    · rw [List.getLast?_reverse]
      simpa using hc
    · have hinfix := hspaced.not_doubled
      rw [← List.reverse_infix] at hinfix
      exact hinfix

theorem convert_eq_nil_iff {cs : List Char} :
    convert cs = [] ↔ ∀ c ∈ cs, isAlphanumeric c = false := by
  rw [← written_eq_nil_iff, convert_eq, List.reverse_eq_nil_iff]
  rcases (spaced_written cs).finished with hnil | ⟨c, t, _, _, hdrop, _⟩
  · rw [hnil]
    exact iff_of_true rfl rfl
  · rw [hdrop]
    refine iff_of_false (List.cons_ne_nil _ _) fun hnil => ?_
    rw [hnil] at hdrop
    cases hdrop

/-- A text that is parted is converted part by part. -/
theorem convert_append_cons {c : Char} (hc : isAlphanumeric c = false) (front back : List Char) :
    convert (front ++ c :: back) =
      if convert front = [] then convert back
      else if convert back = [] then convert front
      else convert front ++ '_' :: convert back := by
  rw [convert_eq, convert_eq, convert_eq, written_append_cons hc]
  rcases (spaced_written back).finished with hback | ⟨d, t, hd, _, hback, _⟩
  · rcases (spaced_written front).finished with hfront | ⟨e, u, he, _, hfront, hbreak⟩
    · rw [hback, hfront]
      rfl
    · rw [hback, hfront, hbreak]
      simp [he]
  · have hdrop : ∀ u, (written back ++ u).dropWhile (· = '_') = d :: t ++ u := by
      intro u
      rw [List.dropWhile_append, hback]
      rfl
    rw [hdrop, hback]
    rcases (spaced_written front).finished with hfront | ⟨e, u, _, _, hfront, hbreak⟩
    · rw [hfront]
      simp [breakWord]
    · rw [hfront, hbreak]
      simp

theorem snakeCase_eq_empty_iff {s : String} :
    snakeCase s = "" ↔ ∀ c ∈ s.toList, isAlphanumeric c = false := by
  rw [← convert_eq_nil_iff, snakeCase, ← String.toList_inj, String.toList_ofList,
    String.toList_empty]

theorem isSnake_snakeCase (s : String) : IsSnake (snakeCase s).toList := by
  rw [snakeCase, String.toList_ofList]
  exact isSnake_convert s.toList

theorem snakeCase_slash (front back : String) :
    snakeCase (front ++ "/" ++ back) =
      if snakeCase front = "" then snakeCase back
      else if snakeCase back = "" then snakeCase front
      else snakeCase front ++ "_" ++ snakeCase back := by
  have hchars : (front ++ "/" ++ back).toList = front.toList ++ '/' :: back.toList := by simp
  have hempty : ∀ s, snakeCase s = "" ↔ convert s.toList = [] := by
    intro s
    rw [snakeCase_eq_empty_iff, convert_eq_nil_iff]
  simp only [hempty]
  rw [snakeCase, hchars, convert_append_cons (by decide)]
  split
  · rfl
  · split
    · rfl
    · rw [← String.toList_inj]
      simp [snakeCase]

/-! ### Paths in snake case -/

theorem join_ne_empty {separator : String} {parts : List String} (hne : parts ≠ [])
    (hparts : "" ∉ parts) : Text.join separator parts ≠ "" := by
  cases parts with
  | nil => exact absurd rfl hne
  | cons part rest =>
    rw [List.mem_cons, not_or] at hparts
    intro h
    by_cases hrest : rest = []
    · exact hparts.1 (by simpa [hrest, Text.join] using h.symm)
    · rw [Text.join_cons_of_ne_nil hrest, String.append_assoc, String.append_eq_empty_iff] at h
      exact hparts.1 h.1.symm

/-- A path in snake case is made of its segments in snake case, those of which nothing is left being
passed over. -/
theorem snakeCase_join (parts : List String) :
    snakeCase (Text.join "/" parts) = Text.join "_" ((parts.map snakeCase).filter (· ≠ "")) := by
  induction parts with
  | nil => rfl
  | cons part rest ih =>
    by_cases hrest : rest = []
    · subst hrest
      by_cases h : snakeCase part = ""
      · simp [Text.join, h]
      · simp [Text.join, h]
    · have hmem : "" ∉ (rest.map snakeCase).filter (· ≠ "") := by simp
      rw [Text.join_cons_of_ne_nil hrest, snakeCase_slash, ih, List.map_cons]
      by_cases h : snakeCase part = ""
      · rw [if_pos h, List.filter_cons_of_neg (by simp [h])]
      · rw [if_neg h, List.filter_cons_of_pos (by simp [h])]
        by_cases hlater : (rest.map snakeCase).filter (· ≠ "") = []
        · rw [hlater]
          simp [Text.join]
        · rw [if_neg (join_ne_empty hlater hmem), Text.join_cons_of_ne_nil hlater]

end SnakeCase

/-! ### Derived names -/

/-- No name can be made of the id, if there is one. -/
def Nameless (operationId : Option String) : Prop :=
  ∀ text, operationId = some text → snakeCase text = ""

/-- What stands behind the method in a derived name. -/
def derivedPart (staticPath : String) : String :=
  if staticPath = "" then "root" else snakeCase staticPath

theorem nameless_none : Nameless none := fun _ htext => by cases htext

theorem handlerName_of_nameless {operationId : Option String} (h : Nameless operationId)
    (m : Method) (staticPath : String) :
    handlerName m operationId staticPath = m.name ++ "_" ++ derivedPart staticPath := by
  have hnone : (operationId.map snakeCase).filter (· ≠ "") = none := by
    cases operationId with
    | none => rfl
    | some text => simp [h text rfl]
  rw [handlerName, hnone, derivedPart]
  dsimp only
  split
  · cases m <;> rfl
  · rfl

theorem handlerName_of_not_nameless {operationId : Option String} (h : ¬ Nameless operationId)
    (m : Method) (staticPath : String) :
    ∃ text, operationId = some text ∧ snakeCase text ≠ "" ∧
      handlerName m operationId staticPath = snakeCase text := by
  cases operationId with
  | none => exact absurd nameless_none h
  | some text =>
    have hne : snakeCase text ≠ "" := by
      intro hempty
      refine h fun _ htext => ?_
      cases htext
      exact hempty
    refine ⟨text, rfl, hne, ?_⟩
    rw [handlerName, Option.map_some, Option.filter_some, if_pos (by simp [hne])]

theorem underscore_not_mem_name (m : Method) : '_' ∉ m.name.toList := by
  cases m <;> decide

theorem derivedPart_eq_empty_iff {staticPath : String} :
    derivedPart staticPath = "" ↔
      staticPath ≠ "" ∧ ∀ c ∈ staticPath.toList, isAlphanumeric c = false := by
  rw [derivedPart]
  split
  · next h => exact iff_of_false (by decide) fun hpath => hpath.1 h
  · next h => rw [SnakeCase.snakeCase_eq_empty_iff, and_iff_right h]

theorem getLast?_derivedPart_ne (staticPath : String) :
    (derivedPart staticPath).toList.getLast? ≠ some '_' := by
  rw [derivedPart]
  split
  · decide
  · exact (SnakeCase.isSnake_snakeCase staticPath).ends

/-- A derived name ends with an underscore where there is a path and nothing is left of it. -/
theorem getLast?_handlerName_iff (m : Method) (operationId : Option String) (staticPath : String) :
    (handlerName m operationId staticPath).toList.getLast? = some '_' ↔
      Nameless operationId ∧ staticPath ≠ "" ∧
        ∀ c ∈ staticPath.toList, isAlphanumeric c = false := by
  by_cases hid : Nameless operationId
  · rw [handlerName_of_nameless hid, and_iff_right hid, ← derivedPart_eq_empty_iff]
    constructor
    · intro hlast
      by_contra hne
      have hchars : (derivedPart staticPath).toList ≠ [] := by
        rw [ne_eq, String.toList_eq_nil_iff]
        exact hne
      rw [String.toList_append, List.getLast?_append_of_ne_nil _ hchars] at hlast
      exact getLast?_derivedPart_ne staticPath hlast
    · intro hempty
      rw [hempty]
      simp
  · obtain ⟨text, _, _, hname⟩ := handlerName_of_not_nameless hid m staticPath
    rw [hname]
    exact iff_of_false (SnakeCase.isSnake_snakeCase text).ends fun h => hid h.1

/-- Method and static part are known from a derived name. -/
theorem derivedName_inj {m m' : Method} {part part' : String} :
    m.name ++ "_" ++ part = m'.name ++ "_" ++ part' ↔ m = m' ∧ part = part' := by
  constructor
  · intro h
    have hchars := congrArg String.toList h
    simp only [String.toList_append, String.reduceToList, List.append_assoc,
      List.singleton_append] at hchars
    have hpieces := congrArg (Text.splitOn '_') hchars
    rw [Text.splitOn_append_cons, Text.splitOn_append_cons,
      Text.splitOn_of_not_mem (underscore_not_mem_name m),
      Text.splitOn_of_not_mem (underscore_not_mem_name m')] at hpieces
    have hname : m.name.toList = m'.name.toList := (List.cons.inj hpieces).1
    rw [hname] at hchars
    have hpart : part.toList = part'.toList :=
      (List.cons.inj (List.append_cancel_left hchars)).2
    exact ⟨Method.name_injective (String.toList_inj.mp hname), String.toList_inj.mp hpart⟩
  · rintro ⟨rfl, rfl⟩
    rfl

/-- **Texts are put into snake case segment by segment.**  Of a path the segments are converted one
by one, and those of which something is left are joined. The words of a converted text stand
between single underscores, and nothing is left of a text only if there is neither letter nor digit
in it. So a handler's name ends with an underscore only if it is derived from such a path. -/
theorem snakeCase_segmentwise :
    (∀ segments : List String, snakeCase (Text.join "/" segments) =
      Text.join "_" ((segments.map snakeCase).filter (· ≠ ""))) ∧
    (∀ s, SnakeCase.IsSnake (snakeCase s).toList ∧
      (snakeCase s = "" ↔ ∀ c ∈ s.toList, isAlphanumeric c = false)) ∧
    ∀ m operationId staticPath,
      (handlerName m operationId staticPath).toList.getLast? = some '_' ↔
        Nameless operationId ∧ staticPath ≠ "" ∧ ∀ c ∈ staticPath.toList, isAlphanumeric c = false :=
  ⟨SnakeCase.snakeCase_join,
    fun s => ⟨SnakeCase.isSnake_snakeCase s, SnakeCase.snakeCase_eq_empty_iff⟩,
    getLast?_handlerName_iff⟩

example : snakeCase "orgs/{orgId}/--/HTTPRepos/" = "orgs_org_id_httprepos" := by decide +kernel

namespace Graph

theorem handlerName_of_routeOf? {g : Graph} {op : Operation} {r : Route}
    (hroute : g.routeOf? op = some r) (hid : Nameless op.operationId) :
    g.handlerName op = op.method.name ++ "_" ++ derivedPart r.staticPath := by
  rw [handlerName, hroute]
  exact handlerName_of_nameless hid op.method r.staticPath

/-- What two static paths have in common if the same is made of them. -/
theorem snakeCase_eq_or_of_derivedPart_eq {p q : String} (h : derivedPart p = derivedPart q) :
    snakeCase p = snakeCase q ∨ p = "" ∧ snakeCase q = "root" ∨ q = "" ∧ snakeCase p = "root" := by
  rw [derivedPart, derivedPart] at h
  by_cases hp : p = ""
  · by_cases hq : q = ""
    · exact Or.inl (by rw [hp, hq])
    · rw [if_pos hp, if_neg hq] at h
      exact Or.inr (Or.inl ⟨hp, h.symm⟩)
  · by_cases hq : q = ""
    · rw [if_neg hp, if_pos hq] at h
      exact Or.inr (Or.inr ⟨hq, h⟩)
    · rw [if_neg hp, if_neg hq] at h
      exact Or.inl h

/-- **Derived names clash only where the static paths do.**  Two operations whose names are derived
have the same name only if they have the same method, and static paths of the same form, the form
of an empty one being `root`. -/
theorem method_and_form_of_handlerName_eq {raw : Json} {g : Graph} (h : ofDocument raw = .ok g)
    {op op' : Operation} (hop : op ∈ g.operations) (hop' : op' ∈ g.operations)
    (hid : Nameless op.operationId) (hid' : Nameless op'.operationId) :
    ∃ r ∈ g.routes, ∃ r' ∈ g.routes, g.routeOf? op = some r ∧ g.routeOf? op' = some r' ∧
      (g.handlerName op = g.handlerName op' →
        op.method = op'.method ∧
        (snakeCase r.staticPath = snakeCase r'.staticPath ∨
          r.staticPath = "" ∧ snakeCase r'.staticPath = "root" ∨
          r'.staticPath = "" ∧ snakeCase r.staticPath = "root")) := by
  obtain ⟨_, _, howned, _⟩ := exists_declarations h
  obtain ⟨r, hr, hroute, _⟩ := howned.routeOf? hop
  obtain ⟨r', hr', hroute', _⟩ := howned.routeOf? hop'
  refine ⟨r, hr, r', hr', hroute, hroute', fun hname => ?_⟩
  rw [handlerName_of_routeOf? hroute hid, handlerName_of_routeOf? hroute' hid',
    derivedName_inj] at hname
  exact ⟨hname.1, snakeCase_eq_or_of_derivedPart_eq hname.2⟩

/-- Two paths with the same static segments, one without any, and one that spells `root`. An id of
which nothing is left names no operation. -/
def namelessDocument : Json := .obj [("paths", .obj [
  ("/users/{id}", .obj [("get", .obj [])]),
  ("/{tenant}/users/", .obj [("get", .obj [("operationId", .str "--")])]),
  ("/{tenant}", .obj [("get", .obj [])]),
  ("/Root", .obj [("get", .obj [])])])]

theorem method_and_form_of_namelessDocument :
    ∃ g, ofDocument namelessDocument = .ok g ∧ ∃ op ∈ g.operations, ∃ op' ∈ g.operations,
      Nameless op.operationId ∧ Nameless op'.operationId ∧
      g.handlerName op = "get_users" ∧ g.handlerName op' = "get_users" ∧
      ∃ r ∈ g.routes, ∃ r' ∈ g.routes, g.routeOf? op = some r ∧ g.routeOf? op' = some r' ∧
        (snakeCase r.staticPath = snakeCase r'.staticPath ∨
          r.staticPath = "" ∧ snakeCase r'.staticPath = "root" ∨
          r'.staticPath = "" ∧ snakeCase r.staticPath = "root") := by
  refine ⟨?g, ?h, ?named⟩
  case h =>
    cbv
    rfl
  case named =>
    have hid : Nameless (some "--") := by
      intro text htext
      cases htext
      decide +kernel
    refine ⟨_, List.mem_cons_self, _, List.mem_cons_of_mem _ List.mem_cons_self,
      nameless_none, hid, by decide +kernel, by decide +kernel, ?_⟩
    obtain ⟨r, hr, r', hr', hroute, hroute', hform⟩ :=
      method_and_form_of_handlerName_eq (show ofDocument namelessDocument = _ by cbv)
        List.mem_cons_self (List.mem_cons_of_mem _ List.mem_cons_self) nameless_none hid
    exact ⟨r, hr, r', hr', hroute, hroute', (hform (by decide +kernel)).2⟩

/-- A path without static segments shares its name with one that spells `root`, and the two static
paths have nothing in common. -/
theorem handlerName_shared_with_root :
    ∃ g, ofDocument namelessDocument = .ok g ∧ ∃ op ∈ g.operations, ∃ op' ∈ g.operations,
      ∃ r r', Nameless op.operationId ∧ Nameless op'.operationId ∧
        g.routeOf? op = some r ∧ g.routeOf? op' = some r' ∧
        g.handlerName op = g.handlerName op' ∧
        snakeCase r.staticPath ≠ snakeCase r'.staticPath := by
  refine ⟨?g, ?h, ?shared⟩
  case h =>
    cbv
    rfl
  case shared =>
    refine ⟨_, List.mem_of_getElem? (i := 2) rfl, _, List.mem_of_getElem? (i := 3) rfl, _, _,
      nameless_none, nameless_none, rfl, rfl,
      by decide +kernel, by decide +kernel⟩

end Graph

end ApiGraph
