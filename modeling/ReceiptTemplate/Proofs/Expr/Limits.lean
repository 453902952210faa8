import ReceiptTemplate.Proofs.Expr.BarePath
import ReceiptTemplate.Proofs.Expr.Derivation
import ReceiptTemplate.Proofs.Expr.ReadBack

/-!
# Limits — they reject sources and change no tree

The limits of length and of depth only refuse.  A tree that is derived with some levels is derived
with more of them, and with fewer of them the parser either comes to the same tree or runs out of
levels: no other step depends on how many are left.
-/

namespace ReceiptTemplate

/-- The result `a`, or the fault of a source that needs more levels than the limit. -/
inductive Fault.OrTooDeep {α : Type} (limit : Nat) (a : α) : Except Fault α → Prop
  | ok : OrTooDeep limit a (.ok a)
  | tooDeep : OrTooDeep limit a (.error (.overall (.tooDeep limit)))

theorem Fault.OrTooDeep.bind {α β : Type} {limit : Nat} {a : α} {b : β} {x : Except Fault α}
    (h : OrTooDeep limit a x) {f : α → Except Fault β} (hf : OrTooDeep limit b (f a)) :
    OrTooDeep limit b (x >>= f) := by
  cases h with
  | ok => exact hf
  | tooDeep => exact .tooDeep

open Fault (OrTooDeep)

namespace Expr

variable {limit d : Nat} {task : Task} {e : Expr} {t u : Lexeme}

/-! ## Steps without a level -/

theorem postfixes_leftBracket_zero (ht : t.token = .symbol .leftBracket) {v : Lexeme}
    (hv : t.advance = .ok v) :
    postfixes limit 0 [] e t = .error (.overall (.tooDeep limit)) := by
  rw [postfixes.eq_1, ht]
  simp only [hv]
  rfl

theorem postfixes_dotted_zero (ht : t.token = .symbol .dot) {s : Segment} {members : List Segment}
    (hsegments : memberSegments t = .ok (s :: members, u)) :
    postfixes limit 0 [] e t = .error (.overall (.tooDeep limit)) := by
  rw [postfixes.eq_1, ht]
  simp only [hsegments]
  rfl

theorem chain_zero {p : Precedence} {compared : Bool} {op : Infix}
    (ht : Infix.ofToken? t.token = some op) (hp : op.continues p = true)
    (hcompared : op.precedence = .comparison → compared = false) :
    chain limit 0 p compared e t = .error (.overall (.tooDeep limit)) := by
  -- A chained comparison would be refused for that, levels or not.
  have hchain : ¬(op.precedence = .comparison ∧ compared = true) := by
    rintro ⟨hprecedence, htrue⟩
    rw [hcompared hprecedence] at htrue
    cases htrue
  rw [chain]
  simp [ht, hp, hchain]

/-! ## Fewer levels -/

/-- With fewer levels than a derivation takes, the parser gives the same tree or runs out of levels.
-/
theorem Derives.orTooDeep {d' : Nat} (h : Derives d' task e u) (limit : Nat) (hd : d ≤ d') :
    OrTooDeep limit (e, u) (task.run limit d) := by
  induction h generalizing d with
  | @operand d' p t v u l e hfirst hchain ihfirst ihchain =>
    cases d with
    | zero =>
      rw [Task.run, operand.eq_1]
      exact .tooDeep
    | succ d =>
      rw [Task.run, operand_succ]
      exact (ihfirst (by omega)).bind (ihchain (by omega))
  | negate ht hv h ih =>
    rw [Task.run, prefixed_of_minus ht, hv, ok_bind]
    exact (ih hd).bind .ok
  | not ht hv h ih =>
    rw [Task.run, prefixed_of_not ht, hv, ok_bind]
    exact (ih hd).bind .ok
  | group ht hv h hw hx hafter ih ihafter =>
    rw [Task.run, prefixed_of_leftParen ht, hv, ok_bind]
    refine (ih hd).bind ?_
    rw [expect, if_pos hw, hx]
    exact ihafter hd
  | path ht hv hs hafter ih =>
    rw [Task.run, prefixed_of_path ht, hv, ok_bind, ofPath, hs]
    exact ih hd
  | leaf ht hu =>
    rw [(Derives.leaf ht hu).run limit]
    exact .ok
  | bare hbracket hdot =>
    rw [(Derives.bare hbracket hdot).run limit]
    exact .ok
  | index ht hv hkey hw hx hafter ihkey ihafter =>
    cases d with
    | zero =>
      rw [Task.run, postfixes_leftBracket_zero ht hv]
      exact .tooDeep
    | succ d =>
      rw [Task.run, postfixes_of_leftBracket ht, hv, ok_bind]
      refine (ihkey (by omega)).bind ?_
      rw [expect, if_pos hw, hx]
      exact ihafter (by omega)
  | noMember ht hsegments =>
    rw [(Derives.noMember ht hsegments).run limit]
    exact .ok
  | dotted ht hsegments hafter ih =>
    cases d with
    | zero =>
      rw [Task.run, postfixes_dotted_zero ht hsegments]
      exact .tooDeep
    | succ d =>
      rw [Task.run, postfixes.eq_4, ht]
      simp only [hsegments]
      exact ih (by omega)
  | member hafter ih =>
    cases d with
    | zero =>
      rw [Task.run, postfixes.eq_2]
      exact .tooDeep
    | succ d =>
      rw [Task.run, postfixes.eq_3]
      exact ih (by omega)
  | last ht =>
    rw [(Derives.last ht).run limit]
    exact .ok
  | looser ht hp =>
    rw [(Derives.looser ht hp).run limit]
    exact .ok
  | filter ht hp hcall hafter ih =>
    cases d with
    | zero =>
      have hpipe : Infix.ofToken? _ = some .filter := congrArg Infix.ofToken? ht
      rw [Task.run, chain_zero hpipe hp (by simp [Infix.precedence])]
      exact .tooDeep
    | succ d =>
      rw [Task.run, chain_of_filter ht hp, hcall]
      exact ih (by omega)
  | operator ht hfilter hp hcompared hv hright hafter ihright ihafter =>
    cases d with
    | zero =>
      rw [Task.run, chain_zero ht hp hcompared]
      exact .tooDeep
    | succ d =>
      rw [Task.run, chain_of_operator ht hfilter hp hcompared, hv, ok_bind]
      exact (ihright (by omega)).bind (ihafter (by omega))

/-! ## Whole sources -/

variable {limits limits' : Limits} {source : String} {cs : List Char}

theorem parseChars_mono {d' : Nat} (h : parseChars d cs = .ok e) (hd : d ≤ d') :
    parseChars d' cs = .ok e := by
  rcases parseChars_eq_ok_iff.1 h with ⟨t, u, ht, hderives, hu⟩
  exact parseChars_eq_ok_iff.2 ⟨t, u, ht, hderives.mono hd, hu⟩

theorem parseChars_orTooDeep {d' : Nat} (h : parseChars d' cs = .ok e) (hd : d ≤ d') :
    OrTooDeep d e (parseChars d cs) := by
  rcases parseChars_eq_ok_iff.1 h with ⟨t, u, ht, hderives, hu⟩
  unfold parseChars
  rw [ht, ok_bind]
  refine (hderives.orTooDeep d hd).bind ?_
  dsimp only
  rw [if_pos hu]
  exact .ok

/-- A source that has a tree is not blank. -/
theorem not_isAllBlank_of_parse (h : parse limits source = .ok e) :
    ¬Text.isAllBlank source = true :=
  fun hblank => parseChars_of_isAllBlank hblank (parseChars_of_parse h)

theorem parse_of_tooLong (hblank : ¬Text.isAllBlank source = true)
    (hlong : limits.length < source.length) :
    parse limits source = .error ⟨.tooLong source.length limits.length, none,
      String.ofList (source.toList.take 100 ++ "...".toList)⟩ := by
  unfold parse
  simp only [if_neg hblank, String.length_toList, if_pos hlong]

/-- Limits reject, and change no tree.  With larger limits a source keeps its tree.  With smaller
ones it keeps it as well, unless it is refused for its length, when it is longer than they allow, or
else for its depth. -/
theorem parse_of_le (hlength : limits.length ≤ limits'.length)
    (hdepth : limits.depth ≤ limits'.depth) (source : String) :
    (∀ e, parse limits source = .ok e → parse limits' source = .ok e) ∧
    ∀ e error, parse limits' source = .ok e → parse limits source = .error error →
      error = if limits.length < source.length then
          ⟨.tooLong source.length limits.length, none,
            String.ofList (source.toList.take 100 ++ "...".toList)⟩
        else ⟨.tooDeep limits.depth, none, source⟩ := by
  refine ⟨?_, ?_⟩
  · intro e h
    refine parse_of_parseChars (Nat.le_trans (length_le_of_parse h) hlength) ?_
    exact parseChars_mono (parseChars_of_parse h) hdepth
  · intro e error h herror
    have hblank := not_isAllBlank_of_parse h
    split
    · next hlong =>
      rw [parse_of_tooLong hblank hlong] at herror
      exact (Except.error.inj herror).symm
    · next hlong =>
      have hparse := parseChars_orTooDeep (parseChars_of_parse h) hdepth
      rw [parse_eq hblank (Nat.not_lt.1 hlong)] at herror
      generalize parseChars limits.depth source.toList = x at hparse herror
      cases hparse with
      | ok => cases herror
      | tooDeep =>
        cases herror
        rw [Fault.toError, String.ofList_toList]

/-- The source `- a` has a tree of two levels, and one level is too few for it. -/
theorem parse_of_le_negated :
    (3 ≤ 3 ∧ 1 ≤ 2) ∧
      parse ⟨3, 2⟩ "- a" = .ok (.negate (.path "a")) ∧
      parse ⟨3, 1⟩ "- a" = .error ⟨.tooDeep 1, none, "- a"⟩ := by
  have ha : IsMember "a" := ⟨by decide, by decide, by simp [IsKeyword]⟩
  have hprintable : (Expr.negate (.path "a")).Printable := ha.isPath
  have hwritten : (Expr.negate (.path "a")).written = "- a" := by decide
  have htree : parse ⟨3, 2⟩ "- a" = .ok (.negate (.path "a")) := by
    rw [← hwritten]
    exact parse_of_parseChars (by decide) (parseChars_written hprintable (by decide))
  have hname : Lexeme.next " a".toList = .ok ⟨.path "a", ['a'], []⟩ := by
    have hspells := spells_name ha.isName ha.notKeyword [] (by simp [Token.EndsWord])
    exact (Token.next_blank ['a']).trans hspells
  have hminus : Lexeme.next "- a".toList = .ok ⟨.symbol .minus, "- a".toList, " a".toList⟩ := rfl
  have hfault : ∃ error, parse ⟨3, 1⟩ "- a" = .error error := by
    refine ⟨⟨.tooDeep 1, none, "- a"⟩, ?_⟩
    rw [parse_eq (by decide) (by decide)]
    dsimp only
    rw [parseChars, hminus, ok_bind, operand_succ, prefixed_of_minus rfl, advance_mk, hname,
      ok_bind, operand.eq_1]
    rfl
  rcases hfault with ⟨error, herror⟩
  have hlength : (⟨3, 1⟩ : Limits).length ≤ (⟨3, 2⟩ : Limits).length := by decide
  have hdepth : (⟨3, 1⟩ : Limits).depth ≤ (⟨3, 2⟩ : Limits).depth := by decide
  refine ⟨⟨hlength, hdepth⟩, htree, ?_⟩
  rw [herror, (parse_of_le hlength hdepth "- a").2 _ _ htree herror]
  rfl

end Expr
end ReceiptTemplate
