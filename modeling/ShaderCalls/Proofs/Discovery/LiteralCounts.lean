import ShaderCalls.Index.Resolution
import ShaderCalls.Proofs.Discovery.Counts
import ShaderCalls.Proofs.Source.AttributeArguments
import ShaderCalls.Proofs.Source.IntegerLiterals

/-!
# Literals as counts

A compute function whose marker has integer literals as its first three arguments takes its counts
from them if they are plain: decimal digits without underscores and without a type.  A literal that
is written in another way is refused as no unsigned integer literal, whatever its value is.
-/

namespace ShaderCalls

open Source (IntegerLiteral)

namespace Source.IntegerLiteral

variable {literal : IntegerLiteral}

/-! ## The spelling of a literal -/

theorem toList_spelling (literal : IntegerLiteral) : literal.spelling.toList = literal.chars :=
  String.toList_ofList

theorem not_isBlank_of_mem {char : Char} (hchar : char ∈ literal.chars) :
    ¬ Text.isBlank char := by
  intro hblank
  exact (Text.not_identifier_of_isBlank hblank).2.1 (literal.continuesIdentifier_of_mem hchar)

/-- A literal stands as it is among the arguments of a marker. -/
theorem isWhole (literal : IntegerLiteral) : IsWhole literal.spelling where
  nonempty := by
    obtain ⟨first, more, hchars, -⟩ := literal.exists_first
    intro hempty
    have hnil : literal.chars = [] := by
      rw [← toList_spelling, hempty]
      rfl
    rw [hchars] at hnil
    contradiction
  unseparated := by
    rw [toList_spelling]
    intro hcomma
    exact absurd (literal.continuesIdentifier_of_mem hcomma) (by decide +kernel)
  front := by
    rw [toList_spelling]
    exact fun char hchar => not_isBlank_of_mem (List.mem_of_head? hchar)
  back := by
    rw [toList_spelling]
    exact fun char hchar => not_isBlank_of_mem (List.mem_of_getLast? hchar)

/-- A literal is plain if it is all decimal digits. -/
theorem isPlain_iff : literal.IsPlain ↔ ∀ char ∈ literal.chars, char.isDigit := by
  constructor
  · rintro ⟨hdecimal, hgaps, hsuffix⟩ char hchar
    rw [chars, hdecimal, hsuffix] at hchar
    have hdigits : char ∈ literal.digits := by simpa [IntegerBase.mark] using hchar
    obtain rfl | ⟨digit, hdigit, hsmall⟩ := literal.inBase char hdigits
    · contradiction
    · rw [hdecimal] at hsmall
      exact isDecimal_of_hexValue? hdigit hsmall
  · intro hdigits
    have hmem : ∀ char, char ∈ literal.base.mark ∨ char ∈ literal.digits ∨
        char ∈ literal.suffix.toList → char.isDigit := by
      intro char hchar
      apply hdigits
      rw [chars, List.mem_append, List.mem_append, or_assoc]
      exact hchar
    refine ⟨?_, fun hgap => ?_, ?_⟩
    · have hmark : literal.base.mark.all Char.isDigit :=
        List.all_eq_true.mpr fun char hchar => hmem char (Or.inl hchar)
      revert hmark
      cases literal.base <;> decide
    · exact absurd (hmem '_' (Or.inr (Or.inl hgap))) (by decide)
    · obtain hempty | hsuffix := literal.isUnsigned
      · exact hempty
      · have hall : ∀ suffix ∈ unsignedTypes, 'u' ∈ suffix.toList := by decide +kernel
        exact absurd (hmem 'u' (Or.inr (Or.inr (hall _ hsuffix)))) (by decide)

theorem foldl_hexValue? {digits : List Char} (hdigits : ∀ char ∈ digits, char.isDigit) :
    ∀ start : Nat, (digits.filterMap Text.hexValue?).foldl
      (fun value digit => 10 * value + digit) start = Nat.ofDigitChars 10 digits start := by
  induction digits with
  | nil => exact fun _ => rfl
  | cons char digits ih =>
      intro start
      have hchar : Text.hexValue? char = some (char.toNat - '0'.toNat) :=
        hexValue?_of_isDecimal (hdigits char List.mem_cons_self)
      rw [List.filterMap_cons_some hchar, List.foldl_cons,
        ih fun digit hdigit => hdigits digit (List.mem_cons_of_mem _ hdigit)]
      rfl

theorem value_of_isPlain (hplain : literal.IsPlain) :
    literal.value = Nat.ofDigitChars 10 literal.chars 0 := by
  have hchars : literal.chars = literal.digits := by
    rw [chars, hplain.1, hplain.2.2]
    simp [IntegerBase.mark]
  have hdigits := isPlain_iff.mp hplain
  rw [hchars] at hdigits ⊢
  rw [value, hplain.1]
  exact foldl_hexValue? hdigits 0

/-- A literal is a count exactly if it is plain, and then it is its own value. -/
theorem isCount_spelling_iff {count : UInt32} :
    Dispatch.IsCount literal.spelling count ↔ literal.IsPlain ∧ literal.value = count.toNat := by
  have hwhole := literal.isWhole
  have htrims : Text.Trims literal.spelling.toList literal.chars :=
    toList_spelling literal ▸ Text.Trims.refl hwhole.front hwhole.back
  obtain ⟨first, more, hchars, hfirst⟩ := literal.exists_first
  constructor
  · rintro ⟨core, hcore, sign, digits, rfl, hsign, -, hdigits, hvalue⟩
    have hsame := hcore.unique htrims
    obtain rfl | rfl := hsign
    · rw [List.nil_append] at hsame
      subst hsame
      have hplain := isPlain_iff.mpr hdigits
      exact ⟨hplain, (value_of_isPlain hplain).trans hvalue⟩
    · -- No literal begins with a sign.
      rw [hchars] at hsame
      obtain ⟨rfl, -⟩ := List.cons.inj hsame
      contradiction
  · rintro ⟨hplain, hvalue⟩
    refine ⟨literal.chars, htrims, [], literal.chars, rfl, Or.inl rfl, ?_,
      isPlain_iff.mp hplain, ?_⟩
    · rw [hchars]
      exact List.cons_ne_nil first more
    · rw [← value_of_isPlain hplain, hvalue]

theorem ne_gap_of_isDecimal {digit : Char} (hdigit : Literal.isDecimal digit) : digit ≠ '_' := by
  rintro rfl
  contradiction

theorem inBase_of_isDecimal {digit : Char} (hdigit : Literal.isDecimal digit) :
    ∃ value ∈ Text.hexValue? digit, value < IntegerBase.decimal.radix := by
  refine ⟨_, hexValue?_of_isDecimal hdigit, ?_⟩
  have hrange : digit.toNat ≤ 57 := by
    rw [Literal.isDecimal, Bool.and_eq_true, decide_eq_true_eq, decide_eq_true_eq] at hdigit
    exact hdigit.2
  show digit.toNat - 48 < 10
  omega

/-- A literal of one decimal digit. -/
def ofDigit (digit : Char) (hdigit : Literal.isDecimal digit) : IntegerLiteral where
  base := .decimal
  digits := [digit]
  suffix := ""
  inBase := List.forall_mem_singleton.mpr (Or.inr (inBase_of_isDecimal hdigit))
  hasDigit := ⟨digit, List.mem_singleton_self digit, ne_gap_of_isDecimal hdigit⟩
  begins := fun _ hgap => ne_gap_of_isDecimal hdigit (Option.some.inj hgap)
  isUnsigned := Or.inl rfl

end Source.IntegerLiteral

/-! ## The counts of a marker -/

/-- What three literals give: their values if all of them are plain, or else an error about the
first that is not. -/
def Dispatch.ofLiterals (function : FunctionId) (marker : String) (x y z : IntegerLiteral) :
    Except DiscoveryError Dispatch :=
  match [(x, 0), (y, 1), (z, 2)].find? (fun (literal, _) => ¬ literal.IsPlain) with
  | none => .ok ⟨x.value.toUInt32, y.value.toUInt32, z.value.toUInt32⟩
  | some (literal, position) =>
    .error (.attributeFormat function marker position literal.spelling)

namespace Dispatch

variable {function : FunctionId} {marker : Attribute}

theorem countAt_spelling {literal : IntegerLiteral} {position : Nat}
    (hsmall : literal.value < UInt32.size) :
    countAt function marker position literal.spelling =
      if literal.IsPlain then .ok literal.value.toUInt32
      else .error (.attributeFormat function marker.name position literal.spelling) := by
  split
  · next hplain =>
      apply countAt_of_isCount
      rw [IntegerLiteral.isCount_spelling_iff, Nat.toUInt32_eq, UInt32.toNat_ofNat_of_lt' hsmall]
      exact ⟨hplain, rfl⟩
  · next hplain =>
      exact countAt_of_not_isCount fun count hcount =>
        hplain (IntegerLiteral.isCount_spelling_iff.mp hcount).1

theorem ofMarker_of_literals {x y z : IntegerLiteral} {rest : List String}
    (harguments : marker.arguments = x.spelling :: y.spelling :: z.spelling :: rest)
    (hsmall : ∀ literal ∈ [x, y, z], literal.value < UInt32.size) :
    ofMarker function marker = ofLiterals function marker.name x y z := by
  rw [ofMarker_of_enough harguments, countAt_spelling (hsmall x (by simp)),
    countAt_spelling (hsmall y (by simp)), countAt_spelling (hsmall z (by simp))]
  by_cases hx : x.IsPlain
  · by_cases hy : y.IsPlain
    · by_cases hz : z.IsPlain <;> simp [ofLiterals, hx, hy, hz, Except.bind]
    · simp [ofLiterals, hx, hy, Except.bind]
  · simp [ofLiterals, hx, Except.bind]

end Dispatch

open Source (Token BeginsWithLiterals)

namespace Declaration

/-- A compute function whose marker has integer literals as its first three arguments takes its
counts from them if they are plain, and is refused otherwise. -/
theorem extract_of_literals {markers : Markers} {declaration : Declaration} (id : FunctionId)
    {marker : Attribute} {content : List Token} {x y z : IntegerLiteral}
    (hkind : (declaration.classify markers).1 = .compute)
    (hmarker : declaration.attributes.find? (·.name = markers.compute) = some marker)
    (hreads : Source.Grammar.ReadsAttribute content marker)
    (hliterals : BeginsWithLiterals [x.spelling, y.spelling, z.spelling] content)
    (hsmall : ∀ literal ∈ [x, y, z], literal.value < UInt32.size) :
    (∀ literal ∈ [x, y, z], literal.IsToken) ∧
      declaration.extract markers id =
        (Dispatch.ofLiterals id markers.compute x y z).map
          (declaration.recordWith id .compute) := by
  refine ⟨fun literal _ => literal.isToken, ?_⟩
  have hwhole : ∀ text ∈ [x.spelling, y.spelling, z.spelling], Source.IsWhole text := by
    intro text htext
    obtain ⟨literal, -, rfl⟩ := List.mem_map.mp (show text ∈ [x, y, z].map (·.spelling) from htext)
    exact literal.isWhole
  obtain ⟨rest, harguments⟩ := hreads.literals_prefix hliterals hwhole
  have hname : marker.name = markers.compute := by
    simpa using List.find?_some hmarker
  rw [extract_of_some ((classify_snd_of_compute hkind).trans hmarker), hkind,
    Dispatch.ofMarker_of_literals harguments.symm hsmall, hname]

/-- A compute function with one digit for each count. -/
def countsInDigits : SourceFile :=
  ⟨"shaders", "shaders.rs", "#[compute_shader(8, 4, 1)] fn f() {}"⟩

/-- Plain literals are taken as they are. -/
theorem countsInDigits_taken :
    ∃ declaration, (SymbolIndex.ofFiles [countsInDigits]).resolver.declaration? ⟨"shaders", "f"⟩ =
        some declaration ∧
      declaration.extract {} ⟨"shaders", "f"⟩ =
        .ok (declaration.recordWith ⟨"shaders", "f"⟩ .compute ⟨8, 4, 1⟩) := by
  have hfound : ((SymbolIndex.ofFiles [countsInDigits]).resolver.declaration?
      ⟨"shaders", "f"⟩).any fun declaration =>
        declaration.attributes = [⟨"compute_shader", ["8", "4", "1"]⟩] := by
    decide +kernel
  obtain ⟨declaration, hdeclaration, hattributes⟩ := (Option.any_eq_true ..).mp hfound
  have hattributes := of_decide_eq_true hattributes
  have hkind : (declaration.classify {}).1 = .compute := by
    rw [classify_fst, hattributes]
    decide +kernel
  have hmarker : declaration.attributes.find? (·.name = ({} : Markers).compute) =
      some ⟨"compute_shader", ["8", "4", "1"]⟩ := by
    rw [hattributes]
    rfl
  let content : List Token := [.literal "8", .mark ',' false, .literal "4", .mark ',' false,
    .literal "1"]
  have hreads : Source.Grammar.ReadsAttribute content ⟨"compute_shader", ["8", "4", "1"]⟩ :=
    ⟨2, [.word "compute_shader" 1, .group .parenthesis content], _, _, _, [], rfl, rfl, rfl⟩
  have hliterals : BeginsWithLiterals ["8", "4", "1"] content :=
    .cons "8" false (.cons "4" false (.last "1"))
  have hextract := extract_of_literals ⟨"shaders", "f"⟩ (x := .ofDigit '8' rfl)
    (y := .ofDigit '4' rfl) (z := .ofDigit '1' rfl) hkind hmarker hreads hliterals (by decide)
  exact ⟨declaration, hdeclaration, hextract.2⟩

/-- Sixteen in hexadecimal digits. -/
def sixteen : IntegerLiteral where
  base := .hexadecimal
  digits := ['1', '0']
  suffix := ""
  inBase := by simp [Text.hexValue?, Source.IntegerBase.radix]
  hasDigit := ⟨'1', by simp⟩
  begins := nofun
  isUnsigned := Or.inl rfl

/-- A compute function with a hexadecimal count. -/
def countsInHexadecimal : SourceFile :=
  ⟨"shaders", "shaders.rs", "#[compute_shader(0x10, 1, 1)] fn f() {}"⟩

/-- The count is an unsigned integer literal, and refused as none. -/
theorem countsInHexadecimal_refused :
    sixteen.spelling = "0x10" ∧ sixteen.value = 16 ∧
      ∃ declaration, (SymbolIndex.ofFiles [countsInHexadecimal]).resolver.declaration?
          ⟨"shaders", "f"⟩ = some declaration ∧
        (declaration.classify {}).1 = .compute ∧
        declaration.attributes = [⟨"compute_shader", [sixteen.spelling, "1", "1"]⟩] ∧
        declaration.extract {} ⟨"shaders", "f"⟩ =
          .error (.attributeFormat ⟨"shaders", "f"⟩ "compute_shader" 0 "0x10") ∧
        declaration.extract {} ⟨"shaders", "f"⟩ ≠
          .ok (declaration.recordWith ⟨"shaders", "f"⟩ .compute ⟨16, 1, 1⟩) := by
  have hspelling : sixteen.spelling = "0x10" := by decide +kernel
  have hfound : ((SymbolIndex.ofFiles [countsInHexadecimal]).resolver.declaration?
      ⟨"shaders", "f"⟩).any fun declaration =>
        declaration.attributes = [⟨"compute_shader", ["0x10", "1", "1"]⟩] := by
    decide +kernel
  obtain ⟨declaration, hdeclaration, hattributes⟩ := (Option.any_eq_true ..).mp hfound
  have hattributes := of_decide_eq_true hattributes
  have hkind : ({} : Markers).kindAmong (declaration.attributes.map (·.name)) = .compute := by
    rw [hattributes]
    decide +kernel
  have hcount : ∀ count, ¬ Dispatch.IsCount "0x10" count :=
    Dispatch.count?_eq_none_iff.mp (by decide +kernel)
  have hmarker : declaration.attributes.find? (·.name = ({} : Markers).compute) =
      some ⟨"compute_shader", ["0x10", "1", "1"]⟩ := by
    rw [hattributes]
    rfl
  have hreads : Dispatch.Reads ⟨"shaders", "f"⟩ ⟨"compute_shader", ["0x10", "1", "1"]⟩
      (.error (.attributeFormat ⟨"shaders", "f"⟩ "compute_shader" 0 "0x10")) :=
    .noCount (by decide) (by decide) rfl (by simp) hcount
  have hextract : declaration.extract {} ⟨"shaders", "f"⟩ =
      .error (.attributeFormat ⟨"shaders", "f"⟩ "compute_shader" 0 "0x10") :=
    (Extracts.compute hkind hmarker hreads).extract_eq
  refine ⟨hspelling, by decide +kernel, declaration, hdeclaration, ?_, ?_, hextract, ?_⟩
  · rw [classify_fst, hkind]
  · rw [hattributes, hspelling]
  · rw [hextract]
    exact nofun

end Declaration

end ShaderCalls
