import ReceiptTemplate.Proofs.Expr.Followed
import ReceiptTemplate.Proofs.Expr.OuterBlanks

/-!
# Grouping — blanks and parentheses around an expression

Around a whole expression blanks and parentheses change nothing: a source that has a tree has it
within them as well, whatever it ends with.  Blanks take no level of depth, and a pair of
parentheses takes one.
-/

namespace ReceiptTemplate
namespace Expr

variable {d : Nat} {e : Expr} {cs : List Char} {limits : Limits} {source : String}

/-- Before the text of an operand stands an opening parenthesis, and behind it a closing one. -/
theorem parseChars_group (h : parseChars d cs = .ok e) :
    parseChars (d + 1) ('(' :: (cs ++ [')'])) = .ok e := by
  have hopen : Lexeme.next ('(' :: (cs ++ [')']))
      = .ok ⟨.symbol .leftParen, '(' :: (cs ++ [')']), cs ++ [')']⟩ := rfl
  have hfinish : Lexeme.next [] = .ok ⟨.finish, [], []⟩ := rfl
  rcases parseChars_followed h (closesOff_rightParen []) with ⟨t, ht, hinner⟩
  -- After the closing parenthesis nothing is left, neither an index nor an operator.
  have hafter : Derives d (.postfixes [] e ⟨.finish, [], []⟩) e ⟨.finish, [], []⟩ :=
    .bare (by simp) (by simp)
  have hgroup : Derives d (.prefixed ⟨.symbol .leftParen, '(' :: (cs ++ [')']), cs ++ [')']⟩) e
      ⟨.finish, [], []⟩ :=
    .group rfl ht hinner rfl hfinish hafter
  exact parseChars_eq_ok_iff.2 ⟨_, _, hopen, .operand hgroup (.last rfl), rfl⟩

theorem blanks_of_isAllBlank {w : String} (h : Text.isAllBlank w = true) : Blanks w.toList :=
  List.all_eq_true.1 h

/-- A source keeps its tree with blanks around it, and with a pair of parentheses around it if there
is one more level for them, wherever the longer text is not too long. -/
theorem parse_around (h : parse limits source = .ok e) :
    (∀ w w' length, Text.isAllBlank w = true → Text.isAllBlank w' = true →
      (w ++ source ++ w').length ≤ length →
        parse ⟨length, limits.depth⟩ (w ++ source ++ w') = .ok e) ∧
    ∀ length, ("(" ++ source ++ ")").length ≤ length →
      parse ⟨length, limits.depth + 1⟩ ("(" ++ source ++ ")") = .ok e := by
  have hparsed := parseChars_of_parse h
  refine ⟨?_, ?_⟩
  · intro w w' length hw hw' hlength
    refine parse_of_parseChars hlength ?_
    rw [String.toList_append, String.toList_append, List.append_assoc]
    exact (parseChars_blanks_iff (blanks_of_isAllBlank hw) (blanks_of_isAllBlank hw')).2 hparsed
  · intro length hlength
    refine parse_of_parseChars hlength ?_
    have hchars : ("(" ++ source ++ ")").toList = '(' :: (source.toList ++ [')']) := by simp
    rw [hchars]
    exact parseChars_group hparsed

/-- A bare filter name ends at the blank and at the parenthesis after it. -/
theorem parse_around_filter :
    parse ⟨5, 2⟩ "a | f" = .ok (.filter ⟨"f", none, []⟩ (.path "a")) ∧
      parse ⟨8, 2⟩ " a | f\t\n" = .ok (.filter ⟨"f", none, []⟩ (.path "a")) ∧
      parse ⟨7, 3⟩ "(a | f)" = .ok (.filter ⟨"f", none, []⟩ (.path "a")) := by
  have ha : IsMember "a" := ⟨by decide, by decide, by simp [IsKeyword]⟩
  have hprintable : (Expr.filter ⟨"f", none, []⟩ (.path "a")).Printable :=
    ⟨⟨by decide, by decide⟩, ha.isPath⟩
  have hwritten : (Expr.filter ⟨"f", none, []⟩ (.path "a")).written = "a | f" := by decide
  have htree : parse ⟨5, 2⟩ "a | f" = .ok (.filter ⟨"f", none, []⟩ (.path "a")) := by
    rw [← hwritten]
    exact parse_of_parseChars (by decide) (parseChars_written hprintable (by decide))
  have haround := parse_around htree
  exact ⟨htree, haround.1 " " "\t\n" 8 (by decide) (by decide) (by decide),
    haround.2 7 (by decide)⟩

end Expr
end ReceiptTemplate
