import ReceiptTemplate.Proofs.Expr.ParserStep

/-!
# Derivations — the ways in which a tree is read

A derivation holds the steps of a parse that succeeds: which token comes next, and what is read from
it on.  The parser gives a tree exactly if there is a derivation of it, whatever limit its errors
name.  So what holds of successful parses is proved by induction on derivations, a case for each
step; the first such fact is that a derivation does not depend on the levels that are left over.
-/

namespace ReceiptTemplate
namespace Expr

/-- What the parser is to read next. -/
inductive Task where
  | operand (p : Precedence) (t : Lexeme)
  /-- An operand up to the first operator that could follow. -/
  | prefixed (t : Lexeme)
  | postfixes (members : List Segment) (e : Expr) (t : Lexeme)
  | chain (p : Precedence) (compared : Bool) (e : Expr) (t : Lexeme)

/-- What the parser gives for a task with `d` levels. -/
def Task.run (limit d : Nat) : Task → Except Fault (Expr × Lexeme)
  | .operand p t => Expr.operand limit d p t
  | .prefixed t => Expr.prefixed limit d t
  | .postfixes members e t => Expr.postfixes limit d members e t
  | .chain p compared e t => Expr.chain limit d p compared e t

/-- `Derives d task e u`: with `d` levels the task gives the tree `e` and ends before the token `u`.
-/
inductive Derives : Nat → Task → Expr → Lexeme → Prop
  | operand {d : Nat} {p : Precedence} {t v u : Lexeme} {l e : Expr}
      (hfirst : Derives d (.prefixed t) l v) (hchain : Derives d (.chain p false l v) e u) :
      Derives (d + 1) (.operand p t) e u
  | negate {d : Nat} {t v u : Lexeme} {e : Expr} (ht : t.token = .symbol .minus)
      (hv : t.advance = .ok v) (h : Derives d (.operand .unary v) e u) :
      Derives d (.prefixed t) (.negate e) u
  | not {d : Nat} {t v u : Lexeme} {e : Expr} (ht : t.token = .symbol .not)
      (hv : t.advance = .ok v) (h : Derives d (.operand .unary v) e u) :
      Derives d (.prefixed t) (.not e) u
  | group {d : Nat} {t v w x u : Lexeme} {e e' : Expr} (ht : t.token = .symbol .leftParen)
      (hv : t.advance = .ok v) (h : Derives d (.operand .lowest v) e w)
      (hw : w.token = .symbol .rightParen) (hx : w.advance = .ok x)
      (hafter : Derives d (.postfixes [] e x) e' u) : Derives d (.prefixed t) e' u
  | path {d : Nat} {t v u : Lexeme} {s : String} {segments : List Segment} {e : Expr}
      (ht : t.token = .path s) (hv : t.advance = .ok v) (hs : Path.split s = .ok segments)
      (hafter : Derives d (.postfixes [] (.path s) v) e u) : Derives d (.prefixed t) e u
  | leaf {d : Nat} {t u : Lexeme} {e : Expr} (ht : leaf? t.token = some e)
      (hu : t.advance = .ok u) : Derives d (.prefixed t) e u
  | bare {d : Nat} {e : Expr} {t : Lexeme} (hbracket : t.token ≠ .symbol .leftBracket)
      (hdot : t.token ≠ .symbol .dot) : Derives d (.postfixes [] e t) e t
  | index {d : Nat} {e key e' : Expr} {t v w x u : Lexeme} (ht : t.token = .symbol .leftBracket)
      (hv : t.advance = .ok v) (hkey : Derives d (.operand .lowest v) key w)
      (hw : w.token = .symbol .rightBracket) (hx : w.advance = .ok x)
      (hafter : Derives d (.postfixes [] (.index e key false) x) e' u) :
      Derives (d + 1) (.postfixes [] e t) e' u
  /-- A dotted part without segments adds nothing. -/
  | noMember {d : Nat} {e : Expr} {t u : Lexeme} (ht : t.token = .symbol .dot)
      (hsegments : memberSegments t = .ok ([], u)) : Derives d (.postfixes [] e t) e u
  | dotted {d : Nat} {e e' : Expr} {t v u : Lexeme} {s : Segment} {members : List Segment}
      (ht : t.token = .symbol .dot) (hsegments : memberSegments t = .ok (s :: members, v))
      (hafter : Derives d (.postfixes members (member e s) v) e' u) :
      Derives (d + 1) (.postfixes [] e t) e' u
  | member {d : Nat} {e e' : Expr} {t u : Lexeme} {s : Segment} {members : List Segment}
      (hafter : Derives d (.postfixes members (member e s) t) e' u) :
      Derives (d + 1) (.postfixes (s :: members) e t) e' u
  | last {d : Nat} {p : Precedence} {compared : Bool} {e : Expr} {t : Lexeme}
      (ht : Infix.ofToken? t.token = none) : Derives d (.chain p compared e t) e t
  | looser {d : Nat} {p : Precedence} {compared : Bool} {e : Expr} {t : Lexeme} {op : Infix}
      (ht : Infix.ofToken? t.token = some op) (hp : op.continues p = false) :
      Derives d (.chain p compared e t) e t
  | filter {d : Nat} {p : Precedence} {compared : Bool} {e e' : Expr} {t v u : Lexeme}
      {call : FilterCall} (ht : t.token = .symbol .pipe) (hp : Infix.filter.continues p = true)
      (hcall : filterCall t = .ok (call, v))
      (hafter : Derives d (.chain p false (.filter call e) v) e' u) :
      Derives (d + 1) (.chain p compared e t) e' u
  | operator {d : Nat} {p : Precedence} {compared : Bool} {e r e' : Expr} {t v w u : Lexeme}
      {op : Infix} (ht : Infix.ofToken? t.token = some op) (hfilter : op ≠ .filter)
      (hp : op.continues p = true) (hcompared : op.precedence = .comparison → compared = false)
      (hv : t.advance = .ok v) (hright : Derives d (.operand op.precedence v) r w)
      (hafter : Derives d (.chain p (op.precedence == .comparison) (op.apply e r) w) e' u) :
      Derives (d + 1) (.chain p compared e t) e' u

/-! ## Derivations and the parser -/

variable {limit d : Nat} {task : Task} {e : Expr} {u : Lexeme}

/-- What is derived is what the parser gives. -/
theorem Derives.run (h : Derives d task e u) (limit : Nat) : task.run limit d = .ok (e, u) := by
  induction h with
  | operand hfirst hchain ihfirst ihchain =>
    simp only [Task.run] at ihfirst ihchain ⊢
    rw [operand_succ, ihfirst]
    exact ihchain
  | negate ht hv h ih =>
    simp only [Task.run] at ih ⊢
    rw [prefixed_of_minus ht, hv, ok_bind, ih]
    rfl
  | not ht hv h ih =>
    simp only [Task.run] at ih ⊢
    rw [prefixed_of_not ht, hv, ok_bind, ih]
    rfl
  | group ht hv h hw hx hafter ih ihafter =>
    simp only [Task.run] at ih ihafter ⊢
    rw [prefixed_of_leftParen ht, hv, ok_bind, ih, ok_bind, expect, if_pos hw, hx]
    exact ihafter
  | path ht hv hs hafter ih =>
    simp only [Task.run] at ih ⊢
    rw [prefixed_of_path ht, hv, ok_bind, ofPath, hs]
    exact ih
  | leaf ht hu =>
    rw [Task.run, prefixed_of_leaf ht, hu]
    rfl
  | bare hbracket hdot => exact postfixes_of_other hbracket hdot
  | index ht hv hkey hw hx hafter ihkey ihafter =>
    simp only [Task.run] at ihkey ihafter ⊢
    rw [postfixes_of_leftBracket ht, hv, ok_bind, ihkey, ok_bind, expect, if_pos hw, hx]
    exact ihafter
  | @noMember d e t u ht hsegments =>
    simp only [Task.run]
    cases d with
    | zero =>
      rw [postfixes.eq_1, ht]
      simp only [hsegments]
      rfl
    | succ d =>
      rw [postfixes.eq_4, ht]
      simp only [hsegments]
      rfl
  | dotted ht hsegments hafter ih =>
    simp only [Task.run] at ih ⊢
    rw [postfixes.eq_4, ht]
    simp only [hsegments]
    exact ih
  | member hafter ih =>
    simp only [Task.run] at ih ⊢
    rw [postfixes.eq_3]
    exact ih
  | last ht => exact chain_of_none ht
  | looser ht hp => exact chain_of_not_continues ht hp
  | filter ht hp hcall hafter ih =>
    simp only [Task.run] at ih ⊢
    rw [chain_of_filter ht hp, hcall]
    exact ih
  | operator ht hfilter hp hcompared hv hright hafter ihright ihafter =>
    simp only [Task.run] at ihright ihafter ⊢
    rw [chain_of_operator ht hfilter hp hcompared, hv, ok_bind, ihright]
    exact ihafter

section

variable {t : Lexeme}

theorem bind_eq_ok {α β : Type} {x : Except Fault α} {f : α → Except Fault β} {b : β}
    (h : (x >>= f) = .ok b) : ∃ a, x = .ok a ∧ f a = .ok b := by
  cases x with
  | error fault => cases h
  | ok a => exact ⟨a, rfl, h⟩

theorem ofPath_eq_ok {s : String} (h : ofPath s = .ok e) :
    e = .path s ∧ ∃ segments, Path.split s = .ok segments := by
  unfold ofPath at h
  split at h
  · next segments hsplit =>
    cases h
    exact ⟨rfl, segments, hsplit⟩
  · cases h

theorem literal_eq_ok (h : literal t = .ok (e, u)) : leaf? t.token = some e := by
  have hleaf {e' : Expr} (h : (t.advance.map fun u => (e', u)) = .ok (e, u)) : e' = e := by
    cases hadvance : t.advance with
    | error fault =>
      rw [hadvance] at h
      cases h
    | ok v =>
      rw [hadvance] at h
      cases h
      rfl
  unfold literal at h
  cases htoken : t.token <;> simp only [htoken, reduceCtorEq] at h <;>
    simp only [leaf?, Option.some.injEq] <;> exact hleaf h

theorem expect_eq_ok {s : Symbol} {cause : ParseCause} (h : expect s cause t = .ok u) :
    t.token = .symbol s ∧ t.advance = .ok u := by
  unfold expect at h
  split at h
  · next ht => exact ⟨ht, h⟩
  · cases h

theorem token_eq_pipe {token : Token} (h : Infix.ofToken? token = some .filter) :
    token = .symbol .pipe := by
  unfold Infix.ofToken? at h
  split at h
  · rfl
  all_goals cases h

/-- All that the parser gives with `d` levels is derived. -/
structure LevelsDerived (limit d : Nat) : Prop where
  operand : ∀ {p t e u}, operand limit d p t = .ok (e, u) → Derives d (.operand p t) e u
  postfixes : ∀ {members l t e u}, postfixes limit d members l t = .ok (e, u) →
    Derives d (.postfixes members l t) e u
  chain : ∀ {p compared l t e u}, chain limit d p compared l t = .ok (e, u) →
    Derives d (.chain p compared l t) e u

namespace LevelsDerived

theorem prefixed (hd : LevelsDerived limit d) (h : prefixed limit d t = .ok (e, u)) :
    Derives d (.prefixed t) e u := by
  have hprefixed := h
  unfold Expr.prefixed at h
  split at h
  · next ht =>
    rcases bind_eq_ok h with ⟨v, hv, h⟩
    rcases bind_eq_ok h with ⟨⟨x, w⟩, hoperand, h⟩
    cases h
    exact .negate ht hv (hd.operand hoperand)
  · next ht =>
    rcases bind_eq_ok h with ⟨v, hv, h⟩
    rcases bind_eq_ok h with ⟨⟨x, w⟩, hoperand, h⟩
    cases h
    exact .not ht hv (hd.operand hoperand)
  · next ht =>
    rcases bind_eq_ok h with ⟨v, hv, h⟩
    rcases bind_eq_ok h with ⟨⟨x, w⟩, hoperand, h⟩
    rcases bind_eq_ok h with ⟨v', hexpect, h⟩
    rcases expect_eq_ok hexpect with ⟨hw, hv'⟩
    exact .group ht hv (hd.operand hoperand) hw hv' (hd.postfixes h)
  · next s ht =>
    rcases bind_eq_ok h with ⟨v, hv, h⟩
    rcases bind_eq_ok h with ⟨x, hpath, h⟩
    rcases ofPath_eq_ok hpath with ⟨rfl, segments, hsplit⟩
    exact .path ht hv hsplit (hd.postfixes h)
  · -- Every other token is a literal or no operand at all.
    have hleaf := literal_eq_ok h
    rw [prefixed_of_leaf hleaf] at hprefixed
    rcases bind_eq_ok hprefixed with ⟨v, hv, h⟩
    cases h
    exact .leaf hleaf hv

theorem operand_succ (hd : LevelsDerived limit d) {p : Precedence}
    (h : Expr.operand limit (d + 1) p t = .ok (e, u)) : Derives (d + 1) (.operand p t) e u := by
  rw [Expr.operand_succ] at h
  rcases bind_eq_ok h with ⟨⟨l, v⟩, hfirst, hchain⟩
  exact .operand (hd.prefixed hfirst) (hd.chain hchain)

theorem postfixes_succ (hd : LevelsDerived limit d) {members : List Segment} {l : Expr}
    (h : Expr.postfixes limit (d + 1) members l t = .ok (e, u)) :
    Derives (d + 1) (.postfixes members l t) e u := by
  cases members with
  | cons s members =>
    rw [postfixes.eq_3] at h
    exact .member (hd.postfixes h)
  | nil =>
    rw [postfixes.eq_4] at h
    split at h
    · next ht =>
      rcases bind_eq_ok h with ⟨v, hv, h⟩
      rcases bind_eq_ok h with ⟨⟨key, w⟩, hkey, h⟩
      rcases bind_eq_ok h with ⟨x, hexpect, h⟩
      rcases expect_eq_ok hexpect with ⟨hw, hx⟩
      exact .index ht hv (hd.operand hkey) hw hx (hd.postfixes h)
    · next ht =>
      rcases bind_eq_ok h with ⟨⟨segments, v⟩, hsegments, h⟩
      cases segments with
      | nil =>
        cases h
        exact .noMember ht hsegments
      | cons s members => exact .dotted ht hsegments (hd.postfixes h)
    · next hbracket hdot =>
      cases h
      exact .bare hbracket hdot

theorem chain_succ (hd : LevelsDerived limit d) {p : Precedence} {compared : Bool} {l : Expr}
    (h : Expr.chain limit (d + 1) p compared l t = .ok (e, u)) :
    Derives (d + 1) (.chain p compared l t) e u := by
  rw [Expr.chain] at h
  split at h
  · next ht =>
    cases h
    exact .last ht
  · next op ht =>
    split at h
    · next hp =>
      cases h
      exact .looser ht (by simpa using hp)
    · next hp =>
      have hp : op.continues p = true := by simpa using hp
      split at h
      · cases h
      · next hcompared =>
        dsimp only at h
        split at h
        · rcases bind_eq_ok h with ⟨⟨call, v⟩, hcall, h⟩
          exact .filter (token_eq_pipe ht) hp hcall (hd.chain h)
        · next hfilter =>
          rcases bind_eq_ok h with ⟨v, hv, h⟩
          rcases bind_eq_ok h with ⟨⟨r, w⟩, hright, h⟩
          refine .operator ht hfilter hp ?_ hv (hd.operand hright) (hd.chain h)
          intro hprecedence
          simpa [hprecedence] using hcompared

theorem zero (limit : Nat) : LevelsDerived limit 0 := by
  refine ⟨?_, ?_, ?_⟩
  · intro p t e u h
    rw [operand.eq_1] at h
    cases h
  · intro members l t e u h
    cases members with
    | cons s members =>
      rw [postfixes.eq_2] at h
      cases h
    | nil =>
      rw [postfixes.eq_1] at h
      split at h
      · rcases bind_eq_ok h with ⟨v, -, h⟩
        cases h
      · next ht =>
        rcases bind_eq_ok h with ⟨⟨segments, v⟩, hsegments, h⟩
        cases segments with
        | nil =>
          cases h
          exact .noMember ht hsegments
        | cons s members => cases h
      · next hbracket hdot =>
        cases h
        exact .bare hbracket hdot
  · intro p compared l t e u h
    rw [Expr.chain] at h
    split at h
    · next ht =>
      cases h
      exact .last ht
    · next op ht =>
      split at h
      · next hp =>
        cases h
        exact .looser ht (by simpa using hp)
      · split at h <;> cases h

end LevelsDerived

theorem levelsDerived (limit d : Nat) : LevelsDerived limit d := by
  induction d with
  | zero => exact .zero limit
  | succ d ih => exact ⟨ih.operand_succ, ih.postfixes_succ, ih.chain_succ⟩

end

/-- The parser gives what is derived, and nothing else. -/
theorem run_eq_ok_iff : task.run limit d = .ok (e, u) ↔ Derives d task e u := by
  refine ⟨?_, fun h => h.run limit⟩
  intro h
  have hd := levelsDerived limit d
  cases task with
  | operand p t => exact hd.operand h
  | prefixed t => exact hd.prefixed h
  | postfixes members l t => exact hd.postfixes h
  | chain p compared l t => exact hd.chain h

/-- A source has a tree if the tree is derived from its first token up to its end. -/
theorem parseChars_eq_ok_iff {cs : List Char} :
    parseChars d cs = .ok e ↔
      ∃ t u, Lexeme.next cs = .ok t ∧ Derives d (.operand .lowest t) e u ∧ u.token = .finish := by
  unfold parseChars
  constructor
  · intro h
    rcases bind_eq_ok h with ⟨t, ht, h⟩
    rcases bind_eq_ok h with ⟨⟨e', u⟩, hoperand, h⟩
    dsimp only at h
    split at h
    · next hu =>
      cases h
      exact ⟨t, u, ht, run_eq_ok_iff.1 hoperand, hu⟩
    · cases h
  · rintro ⟨t, u, ht, hderives, hu⟩
    have hoperand : operand d d .lowest t = .ok (e, u) := hderives.run d
    rw [ht, ok_bind, hoperand, ok_bind]
    exact if_pos hu

/-! ## Levels that are left over -/

/-- With more levels there is the same tree. -/
theorem Derives.mono (h : Derives d task e u) {d' : Nat} (hd : d ≤ d') : Derives d' task e u := by
  induction h generalizing d' with
  | operand hfirst hchain ihfirst ihchain =>
    obtain ⟨k, rfl⟩ : ∃ k, d' = k + 1 := ⟨d' - 1, by omega⟩
    exact .operand (ihfirst (by omega)) (ihchain (by omega))
  | negate ht hv h ih => exact .negate ht hv (ih hd)
  | not ht hv h ih => exact .not ht hv (ih hd)
  | group ht hv h hw hx hafter ih ihafter => exact .group ht hv (ih hd) hw hx (ihafter hd)
  | path ht hv hs hafter ih => exact .path ht hv hs (ih hd)
  | leaf ht hu => exact .leaf ht hu
  | bare hbracket hdot => exact .bare hbracket hdot
  | index ht hv hkey hw hx hafter ihkey ihafter =>
    obtain ⟨k, rfl⟩ : ∃ k, d' = k + 1 := ⟨d' - 1, by omega⟩
    exact .index ht hv (ihkey (by omega)) hw hx (ihafter (by omega))
  | noMember ht hsegments => exact .noMember ht hsegments
  | dotted ht hsegments hafter ih =>
    obtain ⟨k, rfl⟩ : ∃ k, d' = k + 1 := ⟨d' - 1, by omega⟩
    exact .dotted ht hsegments (ih (by omega))
  | member hafter ih =>
    obtain ⟨k, rfl⟩ : ∃ k, d' = k + 1 := ⟨d' - 1, by omega⟩
    exact .member (ih (by omega))
  | last ht => exact .last ht
  | looser ht hp => exact .looser ht hp
  | filter ht hp hcall hafter ih =>
    obtain ⟨k, rfl⟩ : ∃ k, d' = k + 1 := ⟨d' - 1, by omega⟩
    exact .filter ht hp hcall (ih (by omega))
  | operator ht hfilter hp hcompared hv hright hafter ihright ihafter =>
    obtain ⟨k, rfl⟩ : ∃ k, d' = k + 1 := ⟨d' - 1, by omega⟩
    exact .operator ht hfilter hp hcompared hv (ihright (by omega)) (ihafter (by omega))

end Expr
end ReceiptTemplate
