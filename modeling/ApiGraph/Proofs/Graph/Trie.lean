import Mathlib.Data.List.Infix
import Mathlib.Data.List.Nodup

/-!
# Tries of texts

A trie keeps sequences of texts by their common beginnings. It is given by its branches, each
with the trie below it, in the order in which they were first needed. Its listing in pre-order
names every node by the texts on the way to it: each beginning, but the empty one, of a sequence
that has been inserted, and each of them once.
-/

namespace ApiGraph

inductive Trie where
  | leaf
  | branch (text : String) (below others : Trie)
  deriving Repr

namespace Trie

/-- The trie of one sequence. -/
def chain : List String → Trie
  | [] => leaf
  | text :: rest => branch text (chain rest) leaf

/-- A sequence goes down its branch if there is one already, and else gets a new one at the end. -/
def insert : Trie → List String → Trie
  | leaf, texts => chain texts
  | branch text below others, [] => branch text below others
  | branch text below others, first :: rest =>
    if text = first then branch text (below.insert rest) others
    else branch text below (others.insert (first :: rest))

def ofList (sequences : List (List String)) : Trie := sequences.foldl insert leaf

/-- The nodes in pre-order, each named by the texts that lead to it. -/
def listing (above : List String) : Trie → List (List String)
  | leaf => []
  | branch text below others =>
    (above ++ [text]) :: (below.listing (above ++ [text]) ++ others.listing above)

/-- The texts of the branches in order. -/
def texts : Trie → List String
  | leaf => []
  | branch text _ others => text :: others.texts

/-- The trie below the branch of a text. -/
def under (text : String) : Trie → Trie
  | leaf => leaf
  | branch first below others => if first = text then below else others.under text

/-- No two branches of a node have the same text. -/
def Distinct : Trie → Prop
  | leaf => True
  | branch text below others => text ∉ others.texts ∧ below.Distinct ∧ others.Distinct

theorem ofList_concat (sequences : List (List String)) (last : List String) :
    ofList (sequences ++ [last]) = (ofList sequences).insert last := by
  rw [ofList, List.foldl_append]
  rfl

theorem insert_nil (trie : Trie) : trie.insert [] = trie := by
  cases trie <;> rfl

/-! ### One insertion -/

theorem texts_insert (trie : Trie) (first : String) (rest : List String) :
    (trie.insert (first :: rest)).texts =
      if first ∈ trie.texts then trie.texts else trie.texts ++ [first] := by
  induction trie with
  | leaf => rfl
  | branch text below others _ ih =>
    by_cases heq : text = first
    · simp [insert, texts, heq]
    · rw [insert, if_neg heq, texts, texts, ih]
      by_cases hmem : first ∈ others.texts
      · simp [hmem]
      · simp [hmem, Ne.symm heq]

theorem under_insert (trie : Trie) (first text : String) (rest : List String) :
    (trie.insert (first :: rest)).under text =
      if first = text then (trie.under text).insert rest else trie.under text := by
  induction trie with
  | leaf => rfl
  | branch own below others _ ih =>
    by_cases heq : own = first
    · rw [insert, if_pos heq, under, under, heq]
      split <;> rfl
    · rw [insert, if_neg heq, under, under, ih]
      by_cases hown : own = text
      · rw [if_pos hown, if_pos hown, if_neg fun h => heq (hown.trans h.symm)]
      · rw [if_neg hown, if_neg hown]

theorem distinct_chain (sequence : List String) : (chain sequence).Distinct := by
  induction sequence with
  | nil => trivial
  | cons first rest ih => exact ⟨List.not_mem_nil, ih, trivial⟩

/-- An insertion keeps the branches of every node apart. -/
theorem Distinct.insert {trie : Trie} (h : trie.Distinct) (sequence : List String) :
    (trie.insert sequence).Distinct := by
  induction trie generalizing sequence with
  | leaf => exact distinct_chain sequence
  | branch text below others ihBelow ihOthers =>
    obtain ⟨hnew, hbelow, hothers⟩ := h
    cases sequence with
    | nil => exact ⟨hnew, hbelow, hothers⟩
    | cons first rest =>
      rw [Trie.insert]
      split
      · exact ⟨hnew, ihBelow hbelow rest, hothers⟩
      · next hne =>
        refine ⟨?_, hbelow, ihOthers hothers _⟩
        rw [texts_insert]
        split
        · exact hnew
        · simp [hnew, hne]

theorem listing_eq_map (above : List String) (trie : Trie) :
    trie.listing above = (trie.listing []).map (above ++ ·) := by
  induction trie generalizing above with
  | leaf => rfl
  | branch text below others ihBelow ihOthers =>
    rw [listing, listing, ihBelow, ihOthers, ihBelow ([] ++ [text])]
    simp

theorem mem_listing_branch {text first : String} {below others : Trie} {rest : List String} :
    first :: rest ∈ (branch text below others).listing [] ↔
      (first = text ∧ (rest = [] ∨ rest ∈ below.listing [])) ∨
        first :: rest ∈ others.listing [] := by
  rw [listing, listing_eq_map ([] ++ [text]) below, List.mem_cons, List.mem_append, List.mem_map]
  simp only [List.nil_append, List.cons_append, List.cons.injEq, eq_comm (a := text)]
  constructor
  · rintro (⟨rfl, rfl⟩ | ⟨node, hnode, rfl, rfl⟩ | hothers)
    · exact .inl ⟨rfl, .inl rfl⟩
    · exact .inl ⟨rfl, .inr hnode⟩
    · exact .inr hothers
  · rintro (⟨rfl, rfl | hrest⟩ | hothers)
    · exact .inl ⟨rfl, rfl⟩
    · exact .inr (.inl ⟨rest, hrest, rfl, rfl⟩)
    · exact .inr (.inr hothers)

theorem nil_not_mem_listing (trie : Trie) : [] ∉ trie.listing [] := by
  induction trie with
  | leaf => exact List.not_mem_nil
  | branch text below others _ ih =>
    rw [listing, listing_eq_map ([] ++ [text]) below]
    simpa using ih

/-- The beginnings of a sequence that are not empty, taken apart at the first text. -/
theorem cons_prefix_cons_iff {first text : String} {rest more : List String} :
    first :: rest <+: text :: more ↔
      first = text ∧ (rest = [] ∨ (rest ≠ [] ∧ rest <+: more)) := by
  rw [List.cons_prefix_cons]
  by_cases hrest : rest = []
  · simp [hrest]
  · simp [hrest]

theorem mem_listing_chain {sequence node : List String} :
    node ∈ (chain sequence).listing [] ↔ node ≠ [] ∧ node <+: sequence := by
  induction sequence generalizing node with
  | nil => simp [chain, listing]
  | cons text more ih =>
    cases node with
    | nil => simp [nil_not_mem_listing]
    | cons first rest =>
      rw [chain, mem_listing_branch, ih, cons_prefix_cons_iff]
      simp [listing]

/-- An insertion adds the beginnings of its sequence. -/
theorem mem_listing_insert {trie : Trie} {sequence node : List String} :
    node ∈ (trie.insert sequence).listing [] ↔
      node ∈ trie.listing [] ∨ (node ≠ [] ∧ node <+: sequence) := by
  induction trie generalizing sequence node with
  | leaf =>
    rw [insert, mem_listing_chain]
    simp [listing]
  | branch text below others ihBelow ihOthers =>
    cases sequence with
    | nil =>
      rw [insert_nil]
      simp +contextual
    | cons text' more =>
      cases node with
      | nil => simp [nil_not_mem_listing]
      | cons first rest =>
        rw [insert]
        split
        · next heq =>
          subst heq
          rw [mem_listing_branch, mem_listing_branch, ihBelow, cons_prefix_cons_iff]
          grind
        · rw [mem_listing_branch, mem_listing_branch, ihOthers, or_assoc]

/-! ### The trie of some sequences -/

theorem distinct_ofList (sequences : List (List String)) : (ofList sequences).Distinct := by
  induction sequences using List.reverseRecOn with
  | nil => trivial
  | append_singleton sequences last ih =>
    rw [ofList_concat]
    exact ih.insert last

/-- The nodes of the trie are the beginnings, but the empty one, of its sequences. -/
theorem mem_listing_ofList {sequences : List (List String)} {node : List String} :
    node ∈ (ofList sequences).listing [] ↔
      node ≠ [] ∧ ∃ sequence ∈ sequences, node <+: sequence := by
  induction sequences using List.reverseRecOn with
  | nil => simp [ofList, listing]
  | append_singleton sequences last ih =>
    rw [ofList_concat, mem_listing_insert, ih]
    grind

theorem eraseDups_concat (xs : List String) (x : String) :
    (xs ++ [x]).eraseDups = if x ∈ xs then xs.eraseDups else xs.eraseDups ++ [x] := by
  rw [List.eraseDups_append, List.removeAll]
  split
  · next hmem =>
    rw [List.filter_cons_of_neg (by simpa using hmem)]
    exact List.append_nil _
  · next hmem =>
    rw [List.filter_cons_of_pos (by simpa using hmem)]
    rfl

theorem texts_ofList (sequences : List (List String)) :
    (ofList sequences).texts = (sequences.filterMap List.head?).eraseDups := by
  induction sequences using List.reverseRecOn with
  | nil => rfl
  | append_singleton sequences last ih =>
    rw [ofList_concat, List.filterMap_append]
    cases last with
    | nil =>
      rw [insert_nil, ih]
      exact congrArg List.eraseDups (List.append_nil _).symm
    | cons first rest =>
      rw [texts_insert, ih]
      simp only [List.mem_eraseDups]
      exact (eraseDups_concat _ _).symm

/-- Below the branch of a text lie the sequences that begin with it, without it. -/
theorem under_ofList (sequences : List (List String)) (text : String) :
    (ofList sequences).under text =
      ofList ((sequences.filter fun sequence => sequence.head? = some text).map List.tail) := by
  induction sequences using List.reverseRecOn with
  | nil => rfl
  | append_singleton sequences last ih =>
    rw [ofList_concat, List.filter_append, List.map_append]
    cases last with
    | nil => simpa [insert_nil] using ih
    | cons first rest =>
      rw [under_insert, ih]
      split
      · next heq => simp [heq, ofList_concat]
      · next hne => simp [hne]

/-! ### The listing of a trie -/

theorem Distinct.nodup_texts {trie : Trie} (h : trie.Distinct) : trie.texts.Nodup := by
  induction trie with
  | leaf => exact List.nodup_nil
  | branch text below others _ ih => exact List.nodup_cons.mpr ⟨h.1, ih h.2.2⟩

/-- The listing goes through the branches in order, each before what is below it. -/
theorem listing_eq_flatMap {trie : Trie} (h : trie.texts.Nodup) (above : List String) :
    trie.listing above = trie.texts.flatMap fun text =>
      (above ++ [text]) :: (trie.under text).listing (above ++ [text]) := by
  induction trie with
  | leaf => rfl
  | branch first below others _ ih =>
    obtain ⟨hnew, hothers⟩ := List.nodup_cons.mp h
    rw [listing, texts, List.flatMap_cons, under, if_pos rfl, ih hothers, List.cons_append]
    congr 2
    refine List.flatMap_congr fun text htext => ?_
    have hne : first ≠ text := fun heq => hnew (heq ▸ htext)
    rw [under, if_neg hne]

theorem mem_texts_of_mem_listing {trie : Trie} {first : String} {rest : List String}
    (h : first :: rest ∈ trie.listing []) : first ∈ trie.texts := by
  induction trie with
  | leaf => cases h
  | branch text below others _ ih =>
    rcases mem_listing_branch.mp h with ⟨rfl, _⟩ | hothers
    · exact List.mem_cons_self
    · exact List.mem_cons_of_mem _ (ih hothers)

/-- Every node is listed once. -/
theorem Distinct.nodup_listing {trie : Trie} (h : trie.Distinct) : (trie.listing []).Nodup := by
  induction trie with
  | leaf => exact List.nodup_nil
  | branch text below others ihBelow ihOthers =>
    obtain ⟨hnew, hbelow, hothers⟩ := h
    rw [listing, listing_eq_map ([] ++ [text]) below, List.nodup_cons, List.nodup_append]
    -- A node of another branch begins with another text.
    have hapart : ∀ rest, text :: rest ∉ others.listing [] :=
      fun rest hmem => hnew (mem_texts_of_mem_listing hmem)
    refine ⟨?_, (ihBelow hbelow).map (List.append_right_injective _), ihOthers hothers, ?_⟩
    · simp [hapart, nil_not_mem_listing]
    · intro node hnode other hother heq
      obtain ⟨rest, _, rfl⟩ := List.mem_map.mp hnode
      rw [← heq] at hother
      exact hapart rest hother

end Trie

end ApiGraph
