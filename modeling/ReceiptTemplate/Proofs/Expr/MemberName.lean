import ReceiptTemplate.Proofs.Expr.Followed
import ReceiptTemplate.Proofs.Expr.ReadBack

/-!
# Member names — dotted members after a computed index

In `p[k].n` the key is any expression, and the bracket after it is found however the key ends.  A
name after a dot inside a path belongs to the path.  After a computed index it is a token of its
own, and so the names `true`, `false` and `null`, which are parts of a path like any other, are no
members there.
-/

namespace ReceiptTemplate
namespace Expr

open Unicode (isDecimalDigit)
open Token (StopsName StopsNumber)

variable {d : Nat} {e key : Expr} {p name : String} {cs more : List Char}

/-! ## The key -/

theorem depth_pos_of_parseChars (h : parseChars d cs = .ok e) : 0 < d := by
  rcases parseChars_eq_ok_iff.1 h with ⟨t, u, -, hderives, -⟩
  cases hderives
  exact Nat.succ_pos _

/-- A number ends a source where no operator goes on after it. -/
theorem not_parseChars_digits {digits : List Char} (hne : digits ≠ [])
    (hdigits : ∀ c ∈ digits, isDecimalDigit c = true) :
    parseChars d (digits ++ ']' :: more) ≠ .ok e := by
  intro h
  have hstops : StopsNumber (']' :: more) := (Token.endsWord_cons (by simp) more).stopsNumber
  have hbracket : Lexeme.next (']' :: more) = .ok ⟨.symbol .rightBracket, ']' :: more, more⟩ := rfl
  rcases Lexeme.next_digits hne hdigits hstops with ⟨n, hnumber⟩
  rcases parseChars_eq_ok_iff.1 h with ⟨t, u, ht, hderives, hu⟩
  rw [hnumber] at ht
  cases ht
  rw [hderives.ends_after_number rfl hbracket rfl] at hu
  cases hu

/-- The bracket before a key that is more than digits opens no index of the path before it. -/
theorem bracketIndex?_key (h : parseChars d cs = .ok key)
    (hcs : ∃ c ∈ cs, isDecimalDigit c = false) :
    Token.bracketIndex? (cs ++ ']' :: more) = none := by
  have hbracket : ∀ c ∈ (']' :: more).head?, isDecimalDigit c = false := by
    intro c hc
    cases hc
    decide
  rcases span_leaving hbracket cs with ⟨htake, hdrop⟩
  have hsplit := List.takeWhile_append_dropWhile (p := isDecimalDigit) (l := cs)
  have hdigits : ∀ c ∈ cs.takeWhile isDecimalDigit, isDecimalDigit c = true :=
    fun c hc => List.mem_takeWhile_imp hc
  unfold Token.bracketIndex?
  rw [htake, hdrop]
  generalize cs.takeWhile isDecimalDigit = digits at hsplit hdigits ⊢
  generalize cs.dropWhile isDecimalDigit = rest at hsplit ⊢
  cases digits with
  | nil => rfl
  | cons c digits =>
    -- What follows the digits is another part of the key, and not the bracket that closes it.
    cases rest with
    | nil =>
      rw [List.append_nil] at hsplit
      rcases hcs with ⟨c, hc, hdigit⟩
      rw [← hsplit] at hc
      rw [hdigits c hc] at hdigit
      cases hdigit
    | cons b rest =>
      have hb : b ≠ ']' := by
        rintro rfl
        rw [← hsplit] at h
        exact not_parseChars_digits (List.cons_ne_nil c digits) hdigits h
      simp [hb]

/-- A bracket that opens no index of digits is no further segment. -/
theorem pathTail_leftBracket (h : Token.bracketIndex? cs = none) :
    Token.pathTail ('[' :: cs) = ([], '[' :: cs) := by
  rw [Token.pathTail]
  split <;> simp_all

theorem stopsName_leftBracket (cs : List Char) : StopsName ('[' :: cs) := by
  intro c hc
  cases hc
  decide

/-! ## The member -/

/-- After a path, a computed index and a dot, what is left is the member. -/
theorem parseChars_computed (hp : IsPath p) (hkey : parseChars d cs = .ok key)
    (hcs : ∃ c ∈ cs, isDecimalDigit c = false) (hname : Token.isName name.toList = true)
    {j : Nat} (hd : d ≤ j + 1) :
    parseChars (j + 3) (p.toList ++ '[' :: (cs ++ ']' :: '.' :: name.toList))
      = postfixes (j + 3) (j + 1) [] (.index (.path p) key false)
          ⟨.symbol .dot, '.' :: name.toList, name.toList⟩
        >>= fun q => chain (j + 3) (j + 2) .lowest false q.1 q.2
        >>= fun q => if q.2.token = .finish then .ok q.1
          else .error (.at (.unexpectedToken q.2.token.shown) q.2.start) := by
  obtain ⟨tail, htail⟩ : ∃ tail, tail = '.' :: name.toList := ⟨_, rfl⟩
  have hpath := next_path hp (stopsName_leftBracket (cs ++ ']' :: tail))
    (pathTail_leftBracket (bracketIndex?_key hkey hcs))
  have hopen : Lexeme.next ('[' :: (cs ++ ']' :: tail))
      = .ok ⟨.symbol .leftBracket, '[' :: (cs ++ ']' :: tail), cs ++ ']' :: tail⟩ := rfl
  have hdot : Lexeme.next tail = .ok ⟨.symbol .dot, tail, name.toList⟩ := by
    have hnext := next_dot hname []
    rwa [List.append_nil, ← htail] at hnext
  -- The key is read up to the bracket, with the levels that the path and the index leave.
  rcases parseChars_followed hkey (closesOff_rightBracket tail) with ⟨t, ht, hderives⟩
  have hoperand : operand (j + 3) (j + 1) .lowest t
      = .ok (key, ⟨.symbol .rightBracket, ']' :: tail, tail⟩) := (hderives.mono hd).run (j + 3)
  rw [← htail, parseChars, hpath, ok_bind, operand_succ, prefixed_of_path rfl, advance_mk, hopen,
    ok_bind, ofPath_of_isPath hp, ok_bind, postfixes_of_leftBracket rfl, advance_mk, ht, ok_bind,
    hoperand, ok_bind, expect, if_pos rfl, advance_mk, hdot, ok_bind]
  exact bind_assoc ..

/-- A keyword after a dot is no member name. -/
theorem memberSegments_keyword (h : IsKeyword name) :
    memberSegments ⟨.symbol .dot, '.' :: name.toList, name.toList⟩
      = .error (.at .missingMember name.toList) := by
  have hspells : ∃ token, (∀ p, token ≠ .path p) ∧ Token.Spells name.toList token := by
    rcases h with rfl | rfl | rfl
    · exact ⟨.bool true, nofun, Token.spells_bool true⟩
    · exact ⟨.bool false, nofun, Token.spells_bool false⟩
    · exact ⟨.null, nofun, Token.spells_null⟩
  rcases hspells with ⟨token, hpath, hspells⟩
  have hnext := hspells [] (by simp [Token.EndsWord])
  rw [List.append_nil] at hnext
  unfold memberSegments
  rw [advance_mk, hnext, ok_bind]
  split
  · next p hp => exact absurd hp (hpath p)
  · rfl

theorem isName_of_isKeyword (h : IsKeyword name) : Token.isName name.toList = true := by
  rcases h with rfl | rfl | rfl <;> decide

section Computed

variable {j : Nat} (hp : IsPath p) (hkey : parseChars d cs = .ok key)
  (hcs : ∃ c ∈ cs, isDecimalDigit c = false) (hd : d ≤ j + 1)

include hp hkey hcs hd

theorem parseChars_member (hname : IsMember name) :
    parseChars (j + 3) (p.toList ++ '[' :: (cs ++ ']' :: '.' :: name.toList))
      = .ok (.index (.index (.path p) key false) (.text name) true) := by
  have hfinish : Lexeme.next [] = .ok ⟨.finish, [], []⟩ := rfl
  have hends : Token.EndsWord [] := by simp [Token.EndsWord]
  have hmember := memberSegments_name hname hends
  rw [List.append_nil] at hmember
  rw [parseChars_computed hp hkey hcs hname.isName hd, postfixes_of_dot rfl hmember, hfinish,
    ok_bind, postfixes_of_other (by decide) (by decide), ok_bind, chain_of_none rfl]
  rfl

theorem parseChars_refused_member (hname : Token.isName name.toList = true) {fault : Fault}
    (hmember : memberSegments ⟨.symbol .dot, '.' :: name.toList, name.toList⟩ = .error fault) :
    parseChars (j + 3) (p.toList ++ '[' :: (cs ++ ']' :: '.' :: name.toList)) = .error fault := by
  rw [parseChars_computed hp hkey hcs hname hd, postfixes_of_dot_error rfl hmember]
  rfl

end Computed

/-! ## Whole sources -/

/-- A name after a path is part of the path. -/
theorem parse_path_name {limits : Limits} (hp : IsPath p) (hscope : p ≠ ".")
    (hname : Token.isName name.toList = true) (hpath : (p ++ "." ++ name).length ≤ Path.maxLength)
    (hlength : (p ++ "." ++ name).length ≤ limits.length) (hdepth : 0 < limits.depth) :
    parse limits (p ++ "." ++ name) = .ok (.path (p ++ "." ++ name)) := by
  rcases hp with rfl | ⟨t, rfl, hlimits, -⟩
  · exact absurd rfl hscope
  let longer : PathText := ⟨t.name, t.isName, t.pieces ++ [.name name.toList hname]⟩
  have htext : longer.text = t.text ++ "." ++ name := by
    apply String.toList_inj.1
    simp [longer, PathText.text, PathText.chars, PathPiece.chars]
  rw [← htext] at hpath hlength ⊢
  have hinLimits : longer.InLimits := by
    refine ⟨by rwa [← String.length_ofList], ?_⟩
    intro x hx
    rcases List.mem_append.1 hx with hx | hx
    · exact hlimits.pieces x hx
    · rw [List.mem_singleton.1 hx]
      trivial
  have hdot : '.' ∈ longer.text.toList := by
    rw [htext]
    simp
  have hkeyword : Token.ofPathText longer.text = .path longer.text := by
    have hne {s : String} (hs : '.' ∉ s.toList) : longer.text ≠ s := by
      intro heq
      rw [heq] at hdot
      exact hs hdot
    simp [Token.ofPathText, hne]
  rw [parse_of_isSimplePath (isSimplePath_pathText hkeyword) hlength, if_neg (by omega), parsePath,
    ofPath, Path.split_text hinLimits]
  rfl

/-- A dotted name after a computed index is its member if it is no keyword and no longer than a path
may be.  Inside a path a keyword is a name like any other. -/
theorem parse_computed_member {limits inner : Limits} {k : String} (hp : IsPath p)
    (hkey : parse inner k = .ok key) (hk : ∃ c ∈ k.toList, isDecimalDigit c = false)
    (hname : Token.isName name.toList = true)
    (hlength : (p ++ "[" ++ k ++ "]." ++ name).length ≤ limits.length)
    (hdepth : inner.depth + 2 ≤ limits.depth) :
    (IsMember name → parse limits (p ++ "[" ++ k ++ "]." ++ name)
      = .ok (.index (.index (.path p) key false) (.text name) true)) ∧
    (IsKeyword name → parse limits (p ++ "[" ++ k ++ "]." ++ name)
      = .error ⟨.missingMember, some (p.length + k.length + 3), p ++ "[" ++ k ++ "]." ++ name⟩) ∧
    (¬IsKeyword name → Path.maxLength < name.length →
      parse limits (p ++ "[" ++ k ++ "]." ++ name)
        = .error ⟨.pathTooLong name.length Path.maxLength, none,
            String.ofList (name.toList.take 100)⟩) ∧
    (p ≠ "." → (p ++ "." ++ name).length ≤ Path.maxLength →
      parse limits (p ++ "." ++ name) = .ok (.path (p ++ "." ++ name))) := by
  obtain ⟨source, hsource⟩ : ∃ source, source = p ++ "[" ++ k ++ "]." ++ name := ⟨_, rfl⟩
  rw [← hsource] at hlength ⊢
  have hchars : source.toList = p.toList ++ '[' :: (k.toList ++ ']' :: '.' :: name.toList) := by
    simp [hsource]
  have hblank : ¬Text.isAllBlank source = true := by
    intro hblank
    have hbracket : Unicode.isBlank '[' = true :=
      List.all_eq_true.1 hblank '[' (by simp [hchars])
    cases hbracket
  have hparsed := parseChars_of_parse hkey
  have hpos := depth_pos_of_parseChars hparsed
  obtain ⟨j, hj⟩ : ∃ j, limits.depth = j + 3 := ⟨limits.depth - 3, by omega⟩
  have hd : inner.depth ≤ j + 1 := by omega
  rw [parse_eq hblank hlength, hj, hchars]
  refine ⟨?_, ?_, ?_, ?_⟩
  · intro hmember
    rw [parseChars_member hp hparsed hk hd hmember]
    rfl
  · intro hkeyword
    rw [parseChars_refused_member hp hparsed hk hd hname (memberSegments_keyword hkeyword),
      ← hchars]
    have hplace : source.toList.length - name.toList.length = p.length + k.length + 3 := by
      simp [hchars, String.length_toList]
      omega
    show Except.error (Fault.toError source.toList (.at .missingMember name.toList)) = _
    rw [Fault.toError, hplace, String.ofList_toList]
  · intro hkeyword hlong
    rw [parseChars_refused_member hp hparsed hk hd hname
      (memberSegments_long hname hkeyword hlong)]
    rfl
  · intro hscope hpath
    have hshort : (p ++ "." ++ name).length ≤ source.length := by
      have hdot : ".".length = 1 := rfl
      have hclose : "].".length = 2 := rfl
      simp only [hsource, String.length_append]
      omega
    exact parse_path_name hp hscope hname hpath (Nat.le_trans hshort hlength) (by omega)

/-- After the computed index in `a[b]` stands no member `true`, while `a.true` is a path. -/
theorem parse_computed_member_true :
    parse .standard "b" = .ok (.path "b") ∧
      parse .standard "a[b].true" = .error ⟨.missingMember, some 5, "a[b].true"⟩ ∧
      parse .standard "a.true" = .ok (.path "a.true") := by
  have ha : IsMember "a" := ⟨by decide, by decide, by simp [IsKeyword]⟩
  have hb : IsMember "b" := ⟨by decide, by decide, by simp [IsKeyword]⟩
  have hprintable : (Expr.path "b").Printable := hb.isPath
  have hwritten : (Expr.path "b").written = "b" := by decide
  have hkey (limits : Limits) (hlength : 1 ≤ limits.length) (hdepth : 1 ≤ limits.depth) :
      parse limits "b" = .ok (.path "b") := by
    have hparse : parse limits (Expr.path "b").written = .ok (.path "b") :=
      parse_of_parseChars hlength (parseChars_written hprintable hdepth)
    rwa [hwritten] at hparse
  have hcomputed := parse_computed_member ha.isPath
    (hkey ⟨1, 1⟩ (Nat.le_refl 1) (Nat.le_refl 1)) ⟨'b', by decide, by decide⟩
    (isName_of_isKeyword (.inl rfl)) (by decide : _ ≤ Limits.standard.length) (by decide)
  exact ⟨hkey .standard (by decide) (by decide), hcomputed.2.1 (.inl rfl),
    hcomputed.2.2.2 (by decide) (by decide)⟩

end Expr
end ReceiptTemplate
