import FilterLang.Proofs.Expr.Spells
import FilterLang.Proofs.Grammar.Shift

/-!
# Putting filters together as text

A text that is an expression by itself, and that is scanned to its end, may be put into a larger one without being
looked at: between parentheses, as an operand in parentheses, and as an element of a list. The larger text is read as
the expression put together in the same way (`parseAt_combined`).

What the text is scanned to, and read as, does not depend on where it stands, so it spells its expression everywhere
(`spells_of_parse`); the rest is putting spellings together.
-/

namespace FilterLang

open FilterLang.Grammar

/-- A text that is scanned to its end and read as an expression spells this expression, wherever it stands. -/
theorem spells_of_parse {text : String} {e : Expr} (hends : (scanAt 0 text).ending = .complete)
    (hparse : parse text = .ok e) : Spells (.chain .or) text.toList e := by
  intro position
  have hscan : Scan.ofChars position text.toList = (scanAt 0 text).shift position := by
    have := Scan.ofChars_shift 0 position text.toList
    rwa [Nat.zero_add] at this
  have hsentence : Parse.sentence (tokens text) = .ok e := by
    rw [sentence_eq_ok_iff]
    exact parseTokens_ok_iff_sentence.mp hparse
  refine ⟨(tokens text).map (Token.shift position), ?_, ?_⟩
  · rw [Scan.Whole, hscan, Scan.shift, hends]
    rfl
  · refine sentence_eq_ok_iff.mp ?_
    rw [sentence_map (keepsLook_shift position), hsentence]
    rfl

/-- The elements of a list, a comma between any two. -/
theorem spells_intercalate {filters : List (String × Expr)} (hne : filters ≠ [])
    (h : ∀ f ∈ filters, Spells (.chain .or) f.1.toList f.2) :
    Spells .elements (",".intercalate (filters.map Prod.fst)).toList (.list (filters.map Prod.snd)) := by
  rw [String.toList_intercalate, List.map_map]
  induction filters with
  | nil => exact absurd rfl hne
  | cons f filters ih =>
    rw [List.forall_mem_cons] at h
    cases filters with
    | nil =>
      rw [List.map_singleton, List.map_singleton, List.intercalate_singleton]
      exact h.1.last
    | cons g filters =>
      have hmore := h.1.more (ih (List.cons_ne_nil g filters) h.2)
      simpa using hmore

/-- The words of binary operators have a family. -/
theorem exists_family_of_mem {op : String} (h : op ∈ "or" :: "and" :: relationWords) :
    ∃ family, Family.ofWord? op = some family := by
  rcases List.mem_cons.mp h with rfl | h
  · exact ⟨.or, rfl⟩
  rcases List.mem_cons.mp h with rfl | h
  · exact ⟨.and, rfl⟩
  · obtain ⟨family, hfamily, -⟩ := mem_relationWords_iff.mp h
    exact ⟨family, hfamily⟩

/-- **Filters can be put together as text.** Let texts be given that are scanned to their ends and read as expressions.
Each may be put in parentheses, which changes nothing. Any two in parentheses may be joined by any binary operator. All
of them may be put between brackets with commas between them, and if there are any, with one more comma at the end. -/
theorem parseAt_combined (offset : Nat) (filters : List (String × Expr))
    (h : ∀ f ∈ filters, (scanAt 0 f.1).ending = .complete ∧ parse f.1 = .ok f.2) :
    (∀ f ∈ filters, parseAt offset ("(" ++ f.1 ++ ")") = .ok f.2) ∧
      (∀ f ∈ filters, ∀ g ∈ filters, ∀ op ∈ "or" :: "and" :: relationWords,
        ∃ e, Expr.join? op f.2 g.2 = some e ∧
          parseAt offset ("(" ++ f.1 ++ ") " ++ op ++ " (" ++ g.1 ++ ")") = .ok e) ∧
      parseAt offset ("[" ++ ",".intercalate (filters.map Prod.fst) ++ "]") = .ok (.list (filters.map Prod.snd)) ∧
      (filters ≠ [] →
        parseAt offset ("[" ++ ",".intercalate (filters.map Prod.fst) ++ ",]") =
          .ok (.list (filters.map Prod.snd))) := by
  have hspells : ∀ f ∈ filters, Spells (.chain .or) f.1.toList f.2 := fun f hf =>
    spells_of_parse (h f hf).1 (h f hf).2
  have hparens : ∀ f ∈ filters, Spells .primary ("(" ++ f.1 ++ ")").toList f.2 := fun f hf => by
    simpa using (hspells f hf).parens
  refine ⟨fun f hf => ((hparens f hf).chain_of_primary .or).parseAt offset,
    fun f hf g hg op hop => ?_, ?_, fun hne => ?_⟩
  · obtain ⟨family, hfamily⟩ := exists_family_of_mem hop
    refine ⟨.binary family op f.2 g.2, by rw [Expr.join?, hfamily, Option.map_some], ?_⟩
    have hbinary : Spells (.chain .or) ("(" ++ f.1 ++ ") " ++ op ++ " (" ++ g.1 ++ ")").toList
        (.binary family op f.2 g.2) := by
      simpa using Spells.binary hfamily (hparens f hf) (hparens g hg)
    exact hbinary.parseAt offset
  · have hlist : Spells .primary ("[" ++ ",".intercalate (filters.map Prod.fst) ++ "]").toList
        (.list (filters.map Prod.snd)) := by
      by_cases hne : filters = []
      · subst hne
        exact Spells.empty
      · simpa using (spells_intercalate hne hspells).list
    exact (hlist.chain_of_primary .or).parseAt offset
  · have htrailing : Spells .primary ("[" ++ ",".intercalate (filters.map Prod.fst) ++ ",]").toList
        (.list (filters.map Prod.snd)) := by
      simpa using (spells_intercalate hne hspells).trailing
    exact (htrailing.chain_of_primary .or).parseAt offset

/-- A disjunction, and a list whose last string holds a quote, with a line break behind it. -/
theorem parseAt_combined_quote :
    let filters : List (String × Expr) :=
      [("a or b", .binary .or "or" (.identifier "a" false) (.identifier "b" false)),
        ("[1, 'it\\'s',]\n", .list [.integer "1", .string "it's"])]
    (∀ f ∈ filters, (scanAt 0 f.1).ending = .complete ∧ parse f.1 = .ok f.2) ∧
      (∀ f ∈ filters, parseAt 5 ("(" ++ f.1 ++ ")") = .ok f.2) ∧
      (∀ f ∈ filters, ∀ g ∈ filters, ∀ op ∈ "or" :: "and" :: relationWords,
        ∃ e, Expr.join? op f.2 g.2 = some e ∧
          parseAt 5 ("(" ++ f.1 ++ ") " ++ op ++ " (" ++ g.1 ++ ")") = .ok e) ∧
      parseAt 5 ("[" ++ ",".intercalate (filters.map Prod.fst) ++ "]") = .ok (.list (filters.map Prod.snd)) ∧
      (filters ≠ [] →
        parseAt 5 ("[" ++ ",".intercalate (filters.map Prod.fst) ++ ",]") = .ok (.list (filters.map Prod.snd))) := by
  intro filters
  have hscan : scanAt 0 "a or b" =
      ⟨[⟨.identifier, 0, "a"⟩, ⟨.operator, 2, "or"⟩, ⟨.identifier, 5, "b"⟩], .complete⟩ := by decide +kernel
  have hscan' : scanAt 0 "[1, 'it\\'s',]\n" =
      ⟨[⟨.bracketOpen, 0, "["⟩, ⟨.integer, 1, "1"⟩, ⟨.comma, 2, ","⟩, ⟨.string, 4, "it's"⟩, ⟨.comma, 11, ","⟩,
        ⟨.bracketClose, 12, "]"⟩], .complete⟩ := by decide +kernel
  have h : ∀ f ∈ filters, (scanAt 0 f.1).ending = .complete ∧ parse f.1 = .ok f.2 := by
    rw [List.forall_mem_cons, List.forall_mem_singleton]
    simp only [parse, parseAt, tokensAt, hscan, hscan', true_and]
    exact ⟨by cbv, by cbv⟩
  exact ⟨h, parseAt_combined 5 filters h⟩

end FilterLang
