import Hotspot.Json.Reader
import Hotspot.Json.Writer

/-!
A record is read back from the text that is written for it. Every character of a string is found
again behind its escape, and the digits of a number end where something follows that cannot go on
with it. Main statement: a record whose values are switches, texts and whole numbers is read back
with its members in their order.
-/

set_option autoImplicit false
set_option relaxedAutoImplicit false

namespace Hotspot.Json.Reader

section Strings

variable {c : Char} {cs rest : List Char}

private theorem hex4?_control (h : c.toNat < 0x20) :
    hex4? '0' '0' (Text.Numeral.lowerDigit (c.toNat / 16))
    (Text.Numeral.lowerDigit (c.toNat % 16)) = some c.toNat := by
  have hall : ∀ n, n < 0x20 → hex4? '0' '0' (Text.Numeral.lowerDigit (n / 16))
      (Text.Numeral.lowerDigit (n % 16)) = some n := by decide
  exact hall c.toNat h

private theorem pieces_letter {l : Char} (h : letter? l = some c) (rest : List Char) :
    pieces ('\\' :: l :: rest) = (pieces rest).map fun (ps, rest) => (.char c :: ps, rest) := by
  rw [pieces, h]
  · cases pieces rest <;> rfl
  · rintro _ _ _ _ _ rfl
    cases h

private theorem pieces_control (h : c.toNat < 0x20) (rest : List Char) :
    pieces ('\\' :: 'u' :: '0' :: '0' :: Text.Numeral.lowerDigit (c.toNat / 16) ::
      Text.Numeral.lowerDigit (c.toNat % 16) :: rest) =
        (pieces rest).map fun (ps, rest) => (.char c :: ps, rest) := by
  have hpiece : Piece.ofCode c.toNat = .char c := by
    have hlow : ¬ 0xD800 ≤ c.toNat := by omega
    rw [Piece.ofCode, decide_eq_false hlow, Bool.false_and, if_neg Bool.false_ne_true,
      Char.ofNat_toNat]
  rw [pieces, hex4?_control h]
  show (pieces rest >>= fun (others, rest) => pure (Piece.ofCode c.toNat :: others, rest)) = _
  rw [hpiece]
  cases pieces rest <;> rfl

private theorem pieces_bare (hquote : c ≠ '"') (hslash : c ≠ '\\') (h : ¬ c.toNat < 0x20)
    (rest : List Char) :
    pieces (c :: rest) = (pieces rest).map fun (ps, rest) => (.char c :: ps, rest) := by
  rw [pieces, if_neg h]
  · cases pieces rest <;> rfl
  · exact hquote
  · exact fun _ _ _ _ _ hc => absurd hc hslash
  · exact fun _ _ hc => absurd hc hslash

private theorem pieces_escape (c : Char) (rest : List Char) :
    pieces (Writer.escape c ++ rest) = (pieces rest).map fun (ps, rest) =>
    (.char c :: ps, rest) := by
  unfold Writer.escape
  split
  case h_8 hquote hslash _ _ _ _ _ =>
    split
    · rename_i hcontrol
      exact pieces_control hcontrol rest
    · rename_i hcontrol
      exact pieces_bare hquote hslash hcontrol rest
  all_goals exact pieces_letter rfl rest

private theorem pieces_flatMap_escape (cs rest : List Char) :
    pieces (cs.flatMap Writer.escape ++ '"' :: rest) = some (cs.map Piece.char, rest) := by
  induction cs with
  | nil => rw [List.flatMap_nil, List.nil_append, pieces, List.map_nil]
  | cons c cs ih =>
    rw [List.flatMap_cons, List.append_assoc, pieces_escape, ih]
    rfl

private theorem join?_map_char (cs : List Char) : join? (cs.map Piece.char) = some cs := by
  induction cs with
  | nil => rfl
  | cons c cs ih =>
    rw [List.map_cons, join?, ih]
    rfl

private theorem text_flatMap_escape (s : String) (rest : List Char) :
    text (s.toList.flatMap Writer.escape ++ '"' :: rest) = some (s, rest) := by
  unfold text
  rw [pieces_flatMap_escape]
  show (join? (s.toList.map Piece.char) >>= fun cs => pure (String.ofList cs, rest)) = _
  rw [join?_map_char, Option.pure_def, Option.bind_eq_bind, Option.bind_some, String.ofList_toList]

end Strings

section Numbers

variable {c : Char} {n : Nat} {cs rest : List Char}

def Halts (rest : List Char) : Prop :=
  ∀ c ∈ rest.head?, c.isDigit = false ∧ c ≠ '.' ∧ c ≠ 'e' ∧ c ≠ 'E'

private theorem digit?_of_isDigit (h : c.isDigit = true) :
    Text.Numeral.digit? 10 c = some (c.toNat - '0'.toNat) := by
  have hrange : '0' ≤ c ∧ c ≤ '9' := by
    simp only [Char.isDigit, Bool.and_eq_true, decide_eq_true_eq] at h
    exact h
  have hlt : c.toNat - '0'.toNat < 10 := by
    have hle : c.toNat ≤ 57 := hrange.2
    show c.toNat - 48 < 10
    omega
  unfold Text.Numeral.digit?
  simp only [hrange, decide_true, Bool.and_self, if_true, hlt]

private theorem digits?_of_isDigit (h : ∀ c ∈ cs, c.isDigit = true) (value : Nat) :
    Text.Numeral.digits? 10 value cs = some (Nat.ofDigitChars 10 cs value) := by
  induction cs generalizing value with
  | nil => rfl
  | cons c cs ih =>
    obtain ⟨hc, hcs⟩ := List.forall_mem_cons.mp h
    rw [Text.Numeral.digits?, digit?_of_isDigit hc, Option.bind_some, ih hcs, Nat.mul_comm]
    rfl

private theorem isDigit_of_mem_toDigits (h : c ∈ Nat.toDigits 10 n) : c.isDigit = true :=
  Nat.isDigit_of_mem_toDigits (by decide) (by decide) h

private theorem digits?_toDigits (n : Nat) :
    Text.Numeral.digits? 10 0 (Nat.toDigits 10 n) = some n := by
  rw [digits?_of_isDigit fun _ => isDigit_of_mem_toDigits, Nat.ofDigitChars_ten_toDigits]

private theorem head?_toDigits_ne (h : n ≠ 0) : (Nat.toDigits 10 n).head? ≠ some '0' := by
  induction n using Nat.strongRecOn with
  | _ n ih =>
    rw [Nat.toDigits_eq_if (by decide)]
    split
    · rw [List.head?_cons, Ne, Option.some.injEq, Nat.digitChar_eq_zero]
      exact h
    · rw [List.head?_append, List.head?_eq_some_head Nat.toDigits_ne_nil, Option.some_or,
        ← List.head?_eq_some_head]
      exact ih (n / 10) (by omega) (by omega)

private theorem digits_append (hcs : ∀ c ∈ cs, c.isDigit = true) (hne : cs ≠ []) (h : Halts rest) :
    digits (cs ++ rest) = some (cs, rest) := by
  have htake : rest.takeWhile Char.isDigit = [] := by
    cases rest with
    | nil => rfl
    | cons c rest => rw [List.takeWhile_cons, (h c rfl).1, if_neg Bool.false_ne_true]
  have hdrop : rest.dropWhile Char.isDigit = rest := by
    cases rest with
    | nil => rfl
    | cons c rest => rw [List.dropWhile_cons, (h c rfl).1, if_neg Bool.false_ne_true]
  unfold digits
  rw [List.takeWhile_append_of_pos hcs, htake, List.append_nil, List.dropWhile_append_of_pos hcs,
    hdrop]
  cases cs with
  | nil => exact absurd rfl hne
  | cons c cs => rfl

private theorem whole_toDigits (n : Nat) (h : Halts rest) :
    whole (Nat.toDigits 10 n ++ rest) = some (Nat.toDigits 10 n, rest) := by
  rcases Nat.eq_zero_or_pos n with rfl | hpos
  · rfl
  · have hdigits : digits (Nat.toDigits 10 n ++ rest) = some (Nat.toDigits 10 n, rest) :=
      digits_append (fun _ => isDigit_of_mem_toDigits) Nat.toDigits_ne_nil h
    have hfirst := head?_toDigits_ne (Nat.ne_of_gt hpos)
    rw [whole]
    · exact hdigits
    · intro others heq
      obtain ⟨c, cs, hcons⟩ := List.exists_cons_of_ne_nil (Nat.toDigits_ne_nil (n := n) (b := 10))
      rw [hcons, List.cons_append] at heq
      cases heq
      exact hfirst (by rw [hcons]; rfl)

private theorem fraction_of_halts (h : Halts rest) : fraction rest = some ([], rest) := by
  rw [fraction]
  rintro others rfl
  exact (h '.' rfl).2.1 rfl

private theorem exponent_of_halts (h : Halts rest) : exponent rest = some ([], rest) := by
  cases rest with
  | nil => rfl
  | cons c rest =>
    obtain ⟨-, -, hlower, hupper⟩ := h c rfl
    have hletter : ¬ (c == 'e' || c == 'E') = true := by
      simp only [Bool.or_eq_true, beq_iff_eq, hlower, hupper, or_self, not_false_eq_true]
    unfold exponent
    exact if_neg hletter

private theorem toList_render_natural (n : Nat) :
    (Json.integer n).render.toList = Nat.toDigits 10 n := by
  rw [render]
  show (Int.repr n).toList = _
  rw [Int.repr_eq_if, if_pos (Int.natCast_nonneg n), Int.toNat_natCast, Nat.repr_eq_ofList_toDigits,
    String.toList_ofList]

private theorem isDigit_of_toDigits_append (h : Nat.toDigits 10 n ++ rest = c :: cs) :
    c.isDigit = true := by
  obtain ⟨d, ds, hcons⟩ := List.exists_cons_of_ne_nil (Nat.toDigits_ne_nil (n := n) (b := 10))
  have hmem : d ∈ Nat.toDigits 10 n := by rw [hcons]; exact List.mem_cons_self
  rw [hcons, List.cons_append] at h
  cases h
  exact isDigit_of_mem_toDigits hmem

private theorem number_toDigits (n : Nat) (h : Halts rest) :
    number (Nat.toDigits 10 n ++ rest) = some (.integer n, rest) := by
  rw [number]
  · simp only [whole_toDigits n h, fraction_of_halts h, exponent_of_halts h, digits?_toDigits,
      Option.pure_def, Option.bind_eq_bind, Option.bind_some, Option.getD_some]
    rfl
  · intro others heq
    exact absurd (isDigit_of_toDigits_append heq) (by decide)

private theorem scalar_toDigits (string : Reader String) (n : Nat) (h : Halts rest) :
    scalar string (Nat.toDigits 10 n ++ rest) = some (.integer n, rest) := by
  rw [scalar]
  · exact number_toDigits n h
  all_goals
    intro others heq
    exact absurd (isDigit_of_toDigits_append heq) (by decide)

end Numbers

inductive Plain : Json → Prop
  | bool (b : Bool) : Plain (.bool b)
  | text (s : String) : Plain (.text s)
  | natural (n : Nat) : Plain (.integer n)

section Values

variable {j : Json} {rest : List Char}

private theorem toList_quote (s : String) :
    (Writer.quote s).toList = '"' :: (s.toList.flatMap Writer.escape ++ ['"']) := by
  rw [Writer.quote, String.toList_ofList]
  rfl

private theorem scalar_plain (hj : Plain j) (h : Halts rest) :
    scalar text (j.render.toList ++ rest) = some (j, rest) := by
  cases hj with
  | bool b =>
    cases b <;> rfl
  | text s =>
    rw [render, toList_quote, List.cons_append, List.append_assoc, List.singleton_append, scalar,
      text_flatMap_escape]
    rfl
  | natural n =>
    rw [toList_render_natural]
    exact scalar_toDigits text n h

private theorem Plain.head_ne (hj : Plain j) {c : Char} {cs : List Char}
    (h : j.render.toList ++ rest = c :: cs) : isSpace c = false ∧ c ≠ '[' ∧ c ≠ '\x7b' := by
  cases hj with
  | bool b =>
    cases b <;> cases h <;> decide
  | text s =>
    rw [render, toList_quote] at h
    cases h
    decide
  | natural n =>
    rw [toList_render_natural] at h
    have hdigit := isDigit_of_toDigits_append h
    refine ⟨?_, ?_, ?_⟩
    · rw [Bool.eq_false_iff]
      intro hspace
      simp only [isSpace, Bool.or_eq_true, beq_iff_eq] at hspace
      rcases hspace with ((rfl | rfl) | rfl) | rfl <;> exact absurd hdigit (by decide)
    · rintro rfl
      exact absurd hdigit (by decide)
    · rintro rfl
      exact absurd hdigit (by decide)

private theorem skip_of_head {c : Char} {cs : List Char} (h : isSpace c = false) :
    skip (c :: cs) = c :: cs := by
  rw [skip, List.dropWhile_cons, h, if_neg Bool.false_ne_true]

private theorem skip_space (cs : List Char) : skip (' ' :: cs) = skip cs := rfl

private theorem skip_plain (hj : Plain j) (rest : List Char) :
    skip (j.render.toList ++ rest) = j.render.toList ++ rest := by
  cases heq : j.render.toList ++ rest with
  | nil => rfl
  | cons c cs => exact skip_of_head (hj.head_ne heq).1

private theorem value_plain (hj : Plain j) (h : Halts rest) (size depth : Nat) :
    value text size depth (' ' :: (j.render.toList ++ rest)) = some (j, rest) := by
  cases depth with
  | zero => rw [value, skip_space, skip_plain hj, scalar_plain hj h]
  | succ depth =>
    rw [value, skip_space, skip_plain hj]
    split
    · rename_i heq
      exact absurd rfl (hj.head_ne heq).2.1
    · rename_i heq
      exact absurd rfl (hj.head_ne heq).2.2
    · exact scalar_plain hj h

end Values

section Records

variable {wanted : List String} {m : String × Json} {members : List (String × Json)}
  {rest : List Char}

def line (m : String × Json) : List Char :=
  ' ' :: ' ' :: ((Writer.quote m.1).toList ++ ':' :: ' ' :: m.2.render.toList)

private theorem wantedMember_line (hkey : m.1 ∈ wanted) (hplain : Plain m.2) (hrest : Halts rest)
    (size : Nat) :
    wantedMember wanted size ('\n' :: (line m ++ rest)) = some (some m, rest) := by
  obtain ⟨key, j⟩ := m
  have hline : line (key, j) ++ rest = ' ' :: ' ' :: '"' ::
      (key.toList.flatMap Writer.escape ++ '"' :: ':' :: ' ' :: (j.render.toList ++ rest)) := by
    simp only [line, toList_quote, List.cons_append, List.append_assoc, List.nil_append]
  have hcontains : wanted.contains key = true := List.contains_iff_mem.mpr hkey
  rw [hline, wantedMember, member]
  show (text _ >>= fun p => _) = _
  rw [text_flatMap_escape]
  show (if wanted.contains key then
    (full size (' ' :: (j.render.toList ++ rest))).map fun p => (some (key, p.1), p.2)
    else _) = _
  rw [if_pos hcontains, full, value_plain hplain hrest]
  rfl

private theorem halts_comma (rest : List Char) : Halts (',' :: rest) := by
  rintro c ⟨⟩
  decide

private theorem halts_newline (rest : List Char) : Halts ('\n' :: rest) := by
  rintro c ⟨⟩
  decide

/-- The lines of a record up to the brace that closes it. The first member is kept apart, so that
the induction is on the others. -/
private theorem items_lines (hm : m.1 ∈ wanted ∧ Plain m.2)
    (hmembers : ∀ m ∈ members, m.1 ∈ wanted ∧ Plain m.2) {size n : Nat} (hn : members.length < n) :
    items (wantedMember wanted size) '\x7d' n
      ('\n' :: ([',', '\n'].intercalate ((m :: members).map line) ++ '\n' :: '\x7d' :: rest)) =
        some ((m :: members).map some, rest) := by
  -- By induction on the members behind the first one, so that every one but the last has a comma.
  induction members generalizing m n with
  | nil =>
    obtain ⟨n, rfl⟩ := Nat.exists_eq_succ_of_ne_zero (Nat.ne_of_gt hn)
    rw [List.map_cons, List.map_nil, List.intercalate_singleton, items,
      wantedMember_line hm.1 hm.2 (halts_newline _)]
    rfl
  | cons m' members ih =>
    obtain ⟨n, rfl⟩ := Nat.exists_eq_succ_of_ne_zero (Nat.ne_of_gt (Nat.zero_lt_of_lt hn))
    obtain ⟨hm', hothers⟩ := List.forall_mem_cons.mp hmembers
    rw [List.map_cons, List.map_cons, List.intercalate_cons_cons, List.append_assoc,
      List.append_assoc, items]
    show (wantedMember wanted size ('\n' :: (line m ++ ',' :: '\n' :: ([',', '\n'].intercalate
      ((m' :: members).map line) ++ '\n' :: '\x7d' :: rest))) >>= fun p => _) = _
    rw [wantedMember_line hm.1 hm.2 (halts_comma _)]
    show (items (wantedMember wanted size) '\x7d' n ('\n' :: ([',', '\n'].intercalate
      ((m' :: members).map line) ++ '\n' :: '\x7d' :: rest)) >>=
        fun p => some (some m :: p.1, p.2)) = _
    rw [ih hm' hothers (Nat.lt_of_succ_lt_succ hn)]
    rfl

private theorem toList_renderRecord (members : List (String × Json)) :
    (renderRecord members).toList =
      '\x7b' :: '\n' :: ([',', '\n'].intercalate (members.map line) ++ ['\n', '\x7d']) := by
  have hlines : (members.map renderLine).map String.toList = members.map line := by
    rw [List.map_map]
    refine List.map_congr_left fun m _ => ?_
    have hindent : "  ".toList = [' ', ' '] := rfl
    have hcolon : ": ".toList = [':', ' '] := rfl
    simp only [Function.comp_apply, renderLine, String.toList_append, hindent, hcolon, line,
      List.append_assoc, List.cons_append, List.nil_append]
  rw [renderRecord, String.toList_append, String.toList_append, String.toList_intercalate, hlines]
  rfl

private theorem line_ne_nil (m : String × Json) : line m ≠ [] := List.cons_ne_nil _ _

private theorem length_le_intercalate_line (members : List (String × Json)) :
    members.length ≤ ([',', '\n'].intercalate (members.map line)).length := by
  induction members with
  | nil => exact Nat.zero_le _
  | cons m members ih =>
    have hpos : 0 < (line m).length := List.length_pos_iff.mpr (line_ne_nil m)
    cases members with
    | nil =>
      rw [List.map_cons, List.map_nil, List.intercalate_singleton]
      exact hpos
    | cons m' members =>
      rw [List.map_cons, List.map_cons, List.intercalate_cons_cons, List.append_assoc,
        List.length_append, List.length_append, List.length_cons]
      rw [List.map_cons] at ih
      omega

private theorem length_lt_renderRecord (members : List (String × Json)) :
    members.length < (renderRecord members).toList.length := by
  have hle := length_le_intercalate_line members
  rw [toList_renderRecord, List.length_cons, List.length_cons, List.length_append]
  omega

private theorem container_lines (hm : m.1 ∈ wanted ∧ Plain m.2)
    (hmembers : ∀ m ∈ members, m.1 ∈ wanted ∧ Plain m.2) {size : Nat}
    (hsize : members.length < size) :
    container (wantedMember wanted size) '\x7d' size
      ('\n' :: ([',', '\n'].intercalate ((m :: members).map line) ++ '\n' :: '\x7d' :: rest)) =
        some ((m :: members).map some, rest) := by
  have hskip : ∃ cs, skip ('\n' :: ([',', '\n'].intercalate ((m :: members).map line) ++
      '\n' :: '\x7d' :: rest)) = '"' :: cs := by
    cases members with
    | nil =>
      rw [List.map_cons, List.map_nil, List.intercalate_singleton, line, toList_quote]
      exact ⟨_, rfl⟩
    | cons m' members =>
      rw [List.map_cons, List.map_cons, List.intercalate_cons_cons, line, toList_quote]
      exact ⟨_, rfl⟩
  obtain ⟨cs, hcs⟩ := hskip
  rw [container, hcs]
  show items (wantedMember wanted size) '\x7d' size _ = _
  exact items_lines hm hmembers hsize

theorem readWanted?_renderRecord (hne : members ≠ [])
    (h : ∀ m ∈ members, m.1 ∈ wanted ∧ Plain m.2) :
    readWanted? wanted (renderRecord members) = some (.object members) := by
  obtain ⟨m, members, rfl⟩ := List.exists_cons_of_ne_nil hne
  obtain ⟨hm, hmembers⟩ := List.forall_mem_cons.mp h
  have hsize : members.length < (renderRecord (m :: members)).toList.length :=
    Nat.lt_of_succ_lt (length_lt_renderRecord (m :: members))
  unfold readWanted? all
  have hread : wantedValue wanted (renderRecord (m :: members)).toList.length
      (renderRecord (m :: members)).toList = some (.object (m :: members), []) := by
    generalize (renderRecord (m :: members)).toList.length = size at hsize
    rw [toList_renderRecord]
    show (container (wantedMember wanted size) '\x7d' size _).map _ = _
    rw [container_lines hm hmembers hsize, Option.map_some]
    simp only [List.filterMap_map, Function.comp_def, id, List.filterMap_some]
  simp only [hread]
  rfl

end Records

end Hotspot.Json.Reader
