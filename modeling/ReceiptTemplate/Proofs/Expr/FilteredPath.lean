import Mathlib.Data.List.TakeWhile
import ReceiptTemplate.Proofs.Engine.CacheAnswer
import ReceiptTemplate.Proofs.Expr.CallText

/-!
# Filtered paths — a path and one filter after it

The argument of a filter may stand without quotes as long as it has no blank, no pipe and no closing
bracket in it.  A path with a filter after it takes two levels of the budget of the parser.
-/

namespace ReceiptTemplate

/-! ## Arguments without quotes -/

namespace FilterCall

open Unicode (isBlank)

/-- A text that is read as an argument when it stands without quotes. -/
structure IsUnquoted (word : List Char) : Prop where
  ne_nil : word ≠ []
  chars : ∀ c ∈ word, isUnquotedChar c = true ∧ c ≠ '"' ∧ c ≠ '\''

theorem readArgument_unquoted {word : List Char} (h : IsUnquoted word) :
    readArgument word = .ok (String.ofList word, []) := by
  have hall : ∀ c ∈ word, isUnquotedChar c = true := fun c hc => (h.chars c hc).1
  have htake := List.takeWhile_eq_self_iff.2 hall
  have hdrop := List.dropWhile_eq_nil_iff.2 hall
  obtain ⟨c, tail, rfl⟩ := List.exists_cons_of_ne_nil h.ne_nil
  rcases h.chars c List.mem_cons_self with ⟨hunquoted, hquotes⟩
  have hblank : isBlank c = false := by
    simp only [isUnquotedChar, Bool.and_eq_true, Bool.not_eq_true'] at hunquoted
    exact hunquoted.1.1.1
  have hstart : (c :: tail).dropWhile isBlank = c :: tail := by simp [hblank]
  unfold readArgument
  rw [hstart]
  dsimp only
  rw [if_neg (by simp [hquotes]), htake, hdrop]
  rfl

/-- A call with an argument without quotes, and nothing after it. -/
theorem read_unquoted {name : String} (hname : isValidName name.toList = true) {word : List Char}
    (h : IsUnquoted word) :
    read (' ' :: (name.toList ++ ':' :: word))
      = .ok (⟨name, some (String.ofList word), []⟩, []) := by
  have hstop : StopsName (':' :: word) := by
    intro c hc
    obtain rfl : ':' = c := by simpa using hc
    decide
  have hnone : readNamed [] = .ok ([], []) := readNamed_of_no_name (by simp)
  unfold read
  rw [readName_append hname hstop]
  simp [readArgument_unquoted h, Except.map, hnone, String.ofList_toList]

end FilterCall

/-! ## Paths -/

namespace Expr

open Token (ofPathText)

variable {limits : Limits} {t : PathText} {cs : List Char} {call : FilterCall}

theorem parseChars_filtered (hpath : ofPathText t.text = .path t.text) (ht : t.InLimits)
    (hcall : FilterCall.read (' ' :: cs) = .ok (call, [])) (depth : Nat) :
    parseChars (depth + 2) (t.chars ++ ' ' :: '|' :: ' ' :: cs)
      = .ok (.filter call (.path t.text)) := by
  have hword : Lexeme.next (t.chars ++ ' ' :: '|' :: ' ' :: cs)
      = .ok ⟨.path t.text, t.chars ++ ' ' :: '|' :: ' ' :: cs, ' ' :: '|' :: ' ' :: cs⟩ := by
    rw [← hpath]
    exact Token.spells_pathText t _ (Token.endsWord_cons (.inl rfl) _)
  have hpipe : Lexeme.next (' ' :: '|' :: ' ' :: cs)
      = .ok ⟨.symbol .pipe, '|' :: ' ' :: cs, ' ' :: cs⟩ := by
    rw [Token.next_blank]
    exact Token.next_of_read (by decide) rfl
  have htree : ofPath t.text = .ok (.path t.text) := by
    rw [ofPath, Path.split_text ht]
  have hfilter : filterCall ⟨.symbol .pipe, '|' :: ' ' :: cs, ' ' :: cs⟩
      = .ok (call, ⟨.finish, [], []⟩) := by
    unfold filterCall
    rw [hcall]
    rfl
  unfold parseChars
  rw [hword, ok_bind, operand_succ, prefixed_of_path rfl, advance_mk, hpipe, ok_bind, htree, ok_bind,
    postfixes_of_other (by simp) (by simp), ok_bind, chain_of_filter rfl (by decide), hfilter, ok_bind,
    chain_of_none rfl]
  rfl

/-- The tree of a path and a filter, for an engine that can spend two levels on it. -/
theorem treeOf_filtered (hpath : ofPathText t.text = .path t.text) (ht : t.InLimits)
    (hcall : FilterCall.read (' ' :: cs) = .ok (call, []))
    (hlength : (t.chars ++ ' ' :: '|' :: ' ' :: cs).length ≤ limits.length)
    (hdepth : 2 ≤ limits.depth) :
    ExprCache.treeOf limits (String.ofList (t.chars ++ ' ' :: '|' :: ' ' :: cs))
      = .ok (.filter call (.path t.text)) := by
  obtain ⟨depth, hsucc⟩ : ∃ depth, limits.depth = depth + 2 := ⟨limits.depth - 2, by omega⟩
  have hparse := parseChars_filtered hpath ht hcall depth
  have hblank : ¬Text.isAllBlank (String.ofList (t.chars ++ ' ' :: '|' :: ' ' :: cs)) = true := by
    have hpipe : Unicode.isBlank '|' = false := by decide
    intro hall
    rw [Text.isAllBlank, String.toList_ofList, List.all_eq_true] at hall
    rw [hall '|' (by simp)] at hpipe
    cases hpipe
  rw [(ExprCache.treeOf_eq_parse_iff _ _).2 (by omega)]
  unfold parse
  dsimp only
  rw [if_neg hblank, String.toList_ofList, if_neg (Nat.not_lt.2 hlength), hsucc, hparse]
  rfl

end Expr
end ReceiptTemplate
