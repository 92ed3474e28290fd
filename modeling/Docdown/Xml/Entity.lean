import Docdown.Text.Lowercase

/-!
# Docdown.Xml.Entity

What a reference `&name;` stands for: a named character, or a character given
by its code point in decimal (`&#65;`) or hexadecimal (`&#x41;`) digits.  Reading
undoes writing: a character is what its digits in either base stand for
(`resolve?_decimal`, `resolve?_hexadecimal`).
-/

namespace Docdown.Xml.Entity

/-! ## Named characters -/

/-- The code points of the named characters: those of XML itself, then Latin-1,
Latin Extended, Greek, and symbols. -/
def table : List (String × Nat) := [
  ("amp", 0x26), ("gt", 0x3E), ("lt", 0x3C), ("quot", 0x22), ("apos", 0x27), ("AElig", 0xC6),
  ("Aacute", 0xC1), ("Acirc", 0xC2), ("Agrave", 0xC0), ("Aring", 0xC5), ("Atilde", 0xC3),
  ("Auml", 0xC4), ("Ccedil", 0xC7), ("ETH", 0xD0), ("Eacute", 0xC9), ("Ecirc", 0xCA),
  ("Egrave", 0xC8), ("Euml", 0xCB), ("Iacute", 0xCD), ("Icirc", 0xCE), ("Igrave", 0xCC),
  ("Iuml", 0xCF), ("Ntilde", 0xD1), ("Oacute", 0xD3), ("Ocirc", 0xD4), ("Ograve", 0xD2),
  ("Oslash", 0xD8), ("Otilde", 0xD5), ("Ouml", 0xD6), ("THORN", 0xDE), ("Uacute", 0xDA),
  ("Ucirc", 0xDB), ("Ugrave", 0xD9), ("Uuml", 0xDC), ("Yacute", 0xDD), ("aacute", 0xE1),
  ("acirc", 0xE2), ("aelig", 0xE6), ("agrave", 0xE0), ("aring", 0xE5), ("atilde", 0xE3),
  ("auml", 0xE4), ("ccedil", 0xE7), ("eacute", 0xE9), ("ecirc", 0xEA), ("egrave", 0xE8),
  ("eth", 0xF0), ("euml", 0xEB), ("iacute", 0xED), ("icirc", 0xEE), ("igrave", 0xEC),
  ("iuml", 0xEF), ("ntilde", 0xF1), ("oacute", 0xF3), ("ocirc", 0xF4), ("ograve", 0xF2),
  ("oslash", 0xF8), ("otilde", 0xF5), ("ouml", 0xF6), ("szlig", 0xDF), ("thorn", 0xFE),
  ("uacute", 0xFA), ("ucirc", 0xFB), ("ugrave", 0xF9), ("uuml", 0xFC), ("yacute", 0xFD),
  ("yuml", 0xFF), ("copy", 0xA9), ("reg", 0xAE), ("nbsp", 0xA0), ("iexcl", 0xA1), ("cent", 0xA2),
  ("pound", 0xA3), ("curren", 0xA4), ("yen", 0xA5), ("brvbar", 0xA6), ("sect", 0xA7),
  ("uml", 0xA8), ("ordf", 0xAA), ("laquo", 0xAB), ("not", 0xAC), ("shy", 0xAD), ("macr", 0xAF),
  ("deg", 0xB0), ("plusmn", 0xB1), ("sup1", 0xB9), ("sup2", 0xB2), ("sup3", 0xB3),
  ("acute", 0xB4), ("micro", 0xB5), ("para", 0xB6), ("middot", 0xB7), ("cedil", 0xB8),
  ("ordm", 0xBA), ("raquo", 0xBB), ("frac14", 0xBC), ("frac12", 0xBD), ("frac34", 0xBE),
  ("iquest", 0xBF), ("times", 0xD7), ("divide", 0xF7), ("OElig", 0x152), ("oelig", 0x153),
  ("Scaron", 0x160), ("scaron", 0x161), ("Yuml", 0x178), ("fnof", 0x192), ("circ", 0x2C6),
  ("tilde", 0x2DC), ("Alpha", 0x391), ("Beta", 0x392), ("Gamma", 0x393), ("Delta", 0x394),
  ("Epsilon", 0x395), ("Zeta", 0x396), ("Eta", 0x397), ("Theta", 0x398), ("Iota", 0x399),
  ("Kappa", 0x39A), ("Lambda", 0x39B), ("Mu", 0x39C), ("Nu", 0x39D), ("Xi", 0x39E),
  ("Omicron", 0x39F), ("Pi", 0x3A0), ("Rho", 0x3A1), ("Sigma", 0x3A3), ("Tau", 0x3A4),
  ("Upsilon", 0x3A5), ("Phi", 0x3A6), ("Chi", 0x3A7), ("Psi", 0x3A8), ("Omega", 0x3A9),
  ("alpha", 0x3B1), ("beta", 0x3B2), ("gamma", 0x3B3), ("delta", 0x3B4), ("epsilon", 0x3B5),
  ("zeta", 0x3B6), ("eta", 0x3B7), ("theta", 0x3B8), ("iota", 0x3B9), ("kappa", 0x3BA),
  ("lambda", 0x3BB), ("mu", 0x3BC), ("nu", 0x3BD), ("xi", 0x3BE), ("omicron", 0x3BF),
  ("pi", 0x3C0), ("rho", 0x3C1), ("sigmaf", 0x3C2), ("sigma", 0x3C3), ("tau", 0x3C4),
  ("upsilon", 0x3C5), ("phi", 0x3C6), ("chi", 0x3C7), ("psi", 0x3C8), ("omega", 0x3C9),
  ("thetasym", 0x3D1), ("upsih", 0x3D2), ("piv", 0x3D6), ("ensp", 0x2002), ("emsp", 0x2003),
  ("thinsp", 0x2009), ("zwnj", 0x200C), ("zwj", 0x200D), ("lrm", 0x200E), ("rlm", 0x200F),
  ("ndash", 0x2013), ("mdash", 0x2014), ("lsquo", 0x2018), ("rsquo", 0x2019), ("sbquo", 0x201A),
  ("ldquo", 0x201C), ("rdquo", 0x201D), ("bdquo", 0x201E), ("dagger", 0x2020),
  ("Dagger", 0x2021), ("bull", 0x2022), ("hellip", 0x2026), ("permil", 0x2030),
  ("prime", 0x2032), ("Prime", 0x2033), ("lsaquo", 0x2039), ("rsaquo", 0x203A),
  ("oline", 0x203E), ("frasl", 0x2044), ("euro", 0x20AC), ("image", 0x2111), ("weierp", 0x2118),
  ("real", 0x211C), ("trade", 0x2122), ("alefsym", 0x2135), ("larr", 0x2190), ("uarr", 0x2191),
  ("rarr", 0x2192), ("darr", 0x2193), ("harr", 0x2194), ("crarr", 0x21B5), ("lArr", 0x21D0),
  ("uArr", 0x21D1), ("rArr", 0x21D2), ("dArr", 0x21D3), ("hArr", 0x21D4), ("forall", 0x2200),
  ("part", 0x2202), ("exist", 0x2203), ("empty", 0x2205), ("nabla", 0x2207), ("isin", 0x2208),
  ("notin", 0x2209), ("ni", 0x220B), ("prod", 0x220F), ("sum", 0x2211), ("minus", 0x2212),
  ("lowast", 0x2217), ("radic", 0x221A), ("prop", 0x221D), ("infin", 0x221E), ("ang", 0x2220),
  ("and", 0x2227), ("or", 0x2228), ("cap", 0x2229), ("cup", 0x222A), ("int", 0x222B),
  ("there4", 0x2234), ("sim", 0x223C), ("cong", 0x2245), ("asymp", 0x2248), ("ne", 0x2260),
  ("equiv", 0x2261), ("le", 0x2264), ("ge", 0x2265), ("sub", 0x2282), ("sup", 0x2283),
  ("nsub", 0x2284), ("sube", 0x2286), ("supe", 0x2287), ("oplus", 0x2295), ("otimes", 0x2297),
  ("perp", 0x22A5), ("sdot", 0x22C5), ("lceil", 0x2308), ("rceil", 0x2309), ("lfloor", 0x230A),
  ("rfloor", 0x230B), ("lang", 0x2329), ("rang", 0x232A), ("loz", 0x25CA), ("spades", 0x2660),
  ("clubs", 0x2663), ("hearts", 0x2665), ("diams", 0x2666)]

/-- The character of a name, which has to be written as in the table. -/
def named? (name : List Char) : Option Char :=
  (table.lookup (String.ofList name)).map Char.ofNat

/-! ## Characters by number -/

/-- Whether a code point can be written as a number: blanks of markup, and all
characters but the controls and the last two of the basic plane. -/
def isWritable (n : Nat) : Bool :=
  n == 0x9 || n == 0xA || n == 0xD || (0x20 ≤ n && n ≤ 0xD7FF) ||
    (0xE000 ≤ n && n ≤ 0xFFFD) || (0x10000 ≤ n && n ≤ 0x10FFFF)

/-- The value of a digit in a base up to sixteen, letters being lowercase. -/
def digit? (base : Nat) (c : Char) : Option Nat :=
  let v :=
    if c.isDigit then c.toNat - '0'.toNat
    else if c.isLower then c.toNat - 'a'.toNat + 10
    else base
  if v < base then some v else none

/-- The number that digits denote; there has to be at least one. -/
def number? (base : Nat) : List Char → Option Nat
  | [] => none
  | ds => ds.foldlM (fun n c => (digit? base c).map (base * n + ·)) 0

/-- The character with the code point that digits denote. -/
def byNumber? (base : Nat) (digits : List Char) : Option Char :=
  (number? base digits).bind fun n => if isWritable n then some (Char.ofNat n) else none

/-- The character of a numeric name in lowercase. -/
def numeric? : List Char → Option Char
  | '#' :: 'x' :: ds => byNumber? 16 ds
  | '#' :: ds => byNumber? 10 ds
  | _ => none

/-! ## Writing numbers -/

theorem digit?_digitChar {base d : Nat} (hbase : base ≤ 16) (hd : d < base) :
    digit? base (Nat.digitChar d) = some d := by
  have hkinds : ∀ d < 16,
      ((Nat.digitChar d).isDigit = true ∧ (Nat.digitChar d).toNat - '0'.toNat = d) ∨
      ((Nat.digitChar d).isDigit = false ∧ (Nat.digitChar d).isLower = true ∧
        (Nat.digitChar d).toNat - 'a'.toNat + 10 = d) := by
    decide
  unfold digit?
  rcases hkinds d (by omega) with ⟨hdigit, hvalue⟩ | ⟨hdigit, hlower, hvalue⟩
  · simp only [hdigit, hvalue, if_true, if_pos hd]
  · simp only [hdigit, hlower, hvalue, if_true, Bool.false_eq_true, if_false, if_pos hd]

/-- The digits of a number denote it. -/
theorem number?_toDigits {base : Nat} (hlow : 1 < base) (hhigh : base ≤ 16) (n : Nat) :
    number? base (Nat.toDigits base n) = some n := by
  have hfold : (Nat.toDigits base n).foldlM
      (fun n c => (digit? base c).map (base * n + ·)) 0 = some n := by
    induction n using Nat.strongRecOn with
    | ind n ih =>
      rw [Nat.toDigits_eq_if hlow]
      split
      · rename_i hn
        simp [digit?_digitChar hhigh hn]
      · -- The last digit comes off the end.
        have hfront := ih (n / base) (Nat.div_lt_self (by omega) hlow)
        have hlast := digit?_digitChar hhigh (Nat.mod_lt n (by omega))
        simp [hfront, hlast, Nat.div_add_mod]
  unfold number?
  split
  · exact absurd ‹_› Nat.toDigits_ne_nil
  · exact hfold

theorem byNumber?_toDigits {base : Nat} (hlow : 1 < base) (hhigh : base ≤ 16) {c : Char}
    (h : isWritable c.toNat = true) : byNumber? base (Nat.toDigits base c.toNat) = some c := by
  rw [byNumber?, number?_toDigits hlow hhigh, Option.bind_some, if_pos h, Char.ofNat_toNat]

/-- The number of a character in decimal digits is read as the character. -/
theorem numeric?_decimal {c : Char} (h : isWritable c.toNat = true) :
    numeric? ('#' :: Nat.toDigits 10 c.toNat) = some c := by
  unfold numeric?
  split
  · rename_i ds hds
    -- The sign of the other base is no digit of this one.
    have hx : 'x' ∈ Nat.toDigits 10 c.toNat := by
      rw [(List.cons.inj hds).2]
      exact List.mem_cons_self
    exact absurd (Nat.isDigit_of_mem_toDigits (by decide) (by decide) hx) (by decide)
  · rename_i hds
    rw [← (List.cons.inj hds).2]
    exact byNumber?_toDigits (by decide) (by decide) h
  · rename_i hnone
    exact absurd rfl (hnone _)

/-- So is its number in hexadecimal digits. -/
theorem numeric?_hexadecimal {c : Char} (h : isWritable c.toNat = true) :
    numeric? ('#' :: 'x' :: Nat.toDigits 16 c.toNat) = some c :=
  byNumber?_toDigits (by decide) (by decide) h

/-! ## References -/

/-- The character a reference stands for.  A name is looked up as written and
then in lowercase; only after that it is read as a number. -/
def resolve? (name : List Char) : Option Char :=
  named? name <|> named? (Text.lower name) <|> numeric? (Text.lower name)

/-- No name of the table is that of a number. -/
theorem named?_hash (cs : List Char) : named? ('#' :: cs) = none := by
  have htable : ∀ e ∈ table, e.1.toList.head? ≠ some '#' := by decide +kernel
  rw [named?, Option.map_eq_none_iff, List.lookup_eq_none_iff]
  intro e he
  rw [bne_iff_ne]
  intro heq
  exact htable e he (by rw [← heq, String.toList_ofList]; rfl)

theorem lower_toDigits {base : Nat} (hlow : 1 < base) (hhigh : base ≤ 16) (n : Nat) :
    Text.lower (Nat.toDigits base n) = Nat.toDigits base n := by
  have hdigits : ∀ d < 16, Text.lower [Nat.digitChar d] = [Nat.digitChar d] := by decide
  induction n using Nat.strongRecOn with
  | ind n ih =>
    rw [Nat.toDigits_eq_if hlow]
    split
    · exact hdigits n (by omega)
    · have hlast : n % base < 16 := Nat.lt_of_lt_of_le (Nat.mod_lt n (by omega)) hhigh
      rw [Text.lower_append, ih (n / base) (Nat.div_lt_self (by omega) hlow), hdigits _ hlast]

/-- **Writing a character by its number is undone by reading it.** -/
theorem resolve?_decimal {c : Char} (h : isWritable c.toNat = true) :
    resolve? ('#' :: Nat.toDigits 10 c.toNat) = some c := by
  have hlower : Text.lower ('#' :: Nat.toDigits 10 c.toNat) = '#' :: Nat.toDigits 10 c.toNat :=
    congrArg ('#' :: ·) (lower_toDigits (by decide) (by decide) _)
  rw [resolve?, hlower, named?_hash, numeric?_decimal h]
  rfl

theorem resolve?_hexadecimal {c : Char} (h : isWritable c.toNat = true) :
    resolve? ('#' :: 'x' :: Nat.toDigits 16 c.toNat) = some c := by
  have hlower : Text.lower ('#' :: 'x' :: Nat.toDigits 16 c.toNat) =
      '#' :: 'x' :: Nat.toDigits 16 c.toNat :=
    congrArg ('#' :: 'x' :: ·) (lower_toDigits (by decide) (by decide) _)
  rw [resolve?, hlower, named?_hash, numeric?_hexadecimal h]
  rfl

end Docdown.Xml.Entity
