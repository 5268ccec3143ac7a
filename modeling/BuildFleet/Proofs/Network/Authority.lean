import BuildFleet.Proofs.Network.Texts
import BuildFleet.Text.Pieces

/-!
# What an endpoint tells

An endpoint whose host is an address tells the address and the port. Both are behind the scheme,
with the last colon between them: an address of version 6 has colons of its own, a port has none.

> `Text.cutLast?_append`: the last mark of a text divides it;
> `Address.unbracketed_authorityText`: without its brackets, a host is the text of its address;
> `endpoint_told`: so an endpoint tells its address and its port, and no two pairs share one.
-/

namespace BuildFleet

/-! ## The last mark -/

namespace Text

/-- What is before the last mark and what is after it; none if there is no mark. -/
def cutLast? (mark : Char) (cs : List Char) : Option (List Char × List Char) :=
  (cut? mark cs.reverse).map fun (after, before) => (before.reverse, after.reverse)

/-- A text is cut at its first mark. -/
theorem cut?_append {mark : Char} {before : List Char} (h : mark ∉ before) (after : List Char) :
    cut? mark (before ++ mark :: after) = some (before, after) := by
  induction before with
  | nil => exact if_pos rfl
  | cons c before ih =>
    obtain ⟨hc, hbefore⟩ := not_or.mp (List.mem_cons.not.mp h)
    rw [List.cons_append, cut?, if_neg (Ne.symm hc), ih hbefore]
    rfl

/-- A text is cut at its last mark. -/
theorem cutLast?_append {mark : Char} {after : List Char} (h : mark ∉ after) (before : List Char) :
    cutLast? mark (before ++ mark :: after) = some (before, after) := by
  have hreverse : (before ++ mark :: after).reverse = after.reverse ++ mark :: before.reverse := by
    simp
  unfold cutLast?
  rw [hreverse, cut?_append (by simpa using h), Option.map_some]
  simp

end Text

/-! ## Hosts -/

namespace Address

/-- Whether there are brackets around a text. -/
def isBracketed (cs : List Char) : Bool := cs.head? == some '[' && cs.getLast? == some ']'

/-- A text without the brackets around it. -/
def unbracketed (cs : List Char) : List Char := if isBracketed cs then cs.tail.dropLast else cs

/-- Whether an address is one of version 6. -/
def isV6 : Address → Bool
  | v4 .. => false
  | v6 _ => true

/-- Four bytes do not begin with a bracket. -/
theorem head?_bytesChars_ne (a b c d : Nat) : (bytesChars a b c d).head? ≠ some '[' := by
  intro h
  rw [bytesChars, List.head?_append_of_ne_nil _ Nat.toDigits_ne_nil] at h
  have hdigit : (digit? 10 '[').isSome = true :=
    forall_digit?_toDigits (by decide) (by decide) a '[' (List.mem_of_head? h)
  exact absurd hdigit (by decide)

/-- The address in front of a port has brackets exactly if it is one of version 6. -/
theorem isBracketed_authorityText (a : Address) :
    isBracketed a.authorityText.toList = a.isV6 := by
  cases a with
  | v4 a b c d =>
    show isBracketed (bytesText a b c d).toList = false
    rw [toList_bytesText, isBracketed, beq_false_of_ne (head?_bytesChars_ne a b c d)]
    rfl
  | v6 gs =>
    show isBracketed ("[" ++ sixteensText gs ++ "]").toList = true
    rw [String.toList_append, isBracketed, List.getLast?_append_of_ne_nil _ (by simp)]
    simp

/-- Without its brackets an authority is the text of the address. -/
theorem unbracketed_authorityText (a : Address) :
    unbracketed a.authorityText.toList = a.text.toList := by
  rw [unbracketed, isBracketed_authorityText]
  cases a with
  | v4 a b c d => rfl
  | v6 gs =>
    show ("[" ++ sixteensText gs ++ "]").toList.tail.dropLast = (sixteensText gs).toList
    simp

end Address

/-! ## Endpoints -/

/-- The endpoint of an address is its authority and its port. -/
theorem endpointText_of_ofText? {host : String} {a : Address} (h : Address.ofText? host = some a)
    {port : Int} (hport : 0 ≤ port ∧ port ≤ 65535) :
    endpointText host port = "tcp://" ++ (a.authorityText ++ ":" ++ toString port) := by
  unfold endpointText
  simp only [h, if_pos hport]
  simp [String.append_assoc]

/-- The characters are decimal digits that stand for a number. -/
def IsDecimal (digits : List Char) (n : Int) : Prop :=
  digits ≠ [] ∧ (∀ c ∈ digits, c.isDigit = true) ∧ (Nat.ofDigitChars 10 digits 0 : Int) = n

/-- A number that is not negative is written in decimal digits. -/
theorem isDecimal_toString {n : Int} (hn : 0 ≤ n) : IsDecimal (toString n).toList n := by
  obtain ⟨n, rfl⟩ := Int.eq_ofNat_of_zero_le hn
  have hlist : (toString (n : Int)).toList = Nat.toDigits 10 n := Nat.toList_repr
  rw [hlist]
  refine ⟨Nat.toDigits_ne_nil, ?_, ?_⟩
  · exact fun c hc => Nat.isDigit_of_mem_toDigits (by decide) (by decide) hc
  · rw [Nat.ofDigitChars_ten_toDigits]

/-- A port has no colon, so the last one is in front of it. -/
theorem cutLast?_authority (host : String) {port : Int} (hport : 0 ≤ port) :
    Text.cutLast? ':' (host ++ ":" ++ toString port).toList
      = some (host.toList, (toString port).toList) := by
  have hcolon : ':' ∉ (toString port).toList := fun hmem =>
    absurd ((isDecimal_toString hport).2.1 ':' hmem) (by decide)
  rw [String.toList_append, String.toList_append, List.append_assoc]
  exact Text.cutLast?_append hcolon _

/-- An address is read again from its authority. -/
theorem Address.ofText?_unbracketed {a : Address} (h : a.IsValid) :
    ofText? (String.ofList (unbracketed a.authorityText.toList)) = some a := by
  rw [unbracketed_authorityText, String.ofList_toList, ofText?_text h]

/-- Two addresses with ports that are written alike are the same. -/
theorem eq_of_authority_eq {a a' : Address} (ha : a.IsValid) (ha' : a'.IsValid) {port port' : Int}
    (hport : 0 ≤ port) (hport' : 0 ≤ port')
    (h : a.authorityText ++ ":" ++ toString port = a'.authorityText ++ ":" ++ toString port') :
    a = a' ∧ port = port' := by
  have hcut := cutLast?_authority a.authorityText hport
  rw [h, cutLast?_authority _ hport'] at hcut
  obtain ⟨hhost, hdigits⟩ := Prod.mk.inj (Option.some.inj hcut)
  constructor
  · have hread := Address.ofText?_unbracketed ha
    rw [← hhost, Address.ofText?_unbracketed ha'] at hread
    exact (Option.some.inj hread).symm
  · rw [← (isDecimal_toString hport).2.2, ← hdigits, (isDecimal_toString hport').2.2]

/-- An endpoint is the scheme and an authority that the last colon divides into an address, in
brackets if it is one of version 6, and a port. -/
theorem endpoint_told {host : String} {a : Address} (ha : Address.ofText? host = some a)
    {port : Int} (hport : 0 ≤ port ∧ port ≤ 65535) :
    (∃ authority front digits, endpointText host port = "tcp://" ++ authority
      ∧ Text.cutLast? ':' authority.toList = some (front, digits)
      ∧ Address.ofText? (String.ofList (Address.unbracketed front)) = some a
      ∧ IsDecimal digits port
      ∧ (Address.isBracketed front = true ↔ a.isV6 = true))
    ∧ ∀ host' a' port', Address.ofText? host' = some a' → 0 ≤ port' ∧ port' ≤ 65535 →
      (endpointText host port = endpointText host' port' ↔ a = a' ∧ port = port') := by
  have hvalid := Address.isValid_of_ofText? ha
  have htext := endpointText_of_ofText? ha hport
  constructor
  · refine ⟨_, _, _, htext, cutLast?_authority _ hport.1, Address.ofText?_unbracketed hvalid,
      isDecimal_toString hport.1, ?_⟩
    rw [Address.isBracketed_authorityText]
  · intro host' a' port' ha' hport'
    rw [htext, endpointText_of_ofText? ha' hport', String.append_right_inj]
    constructor
    · exact eq_of_authority_eq hvalid (Address.isValid_of_ofText? ha') hport.1 hport'.1
    · rintro ⟨rfl, rfl⟩
      rfl

/-- One address has one endpoint, however it is spelled, and another one has another. -/
theorem endpoint_told_spellings :
    (Address.ofText? "FD00:0::0001" = some (.v6 [0xfd00, 0, 0, 0, 0, 0, 0, 1])
      ∧ (0 : Int) ≤ 1234 ∧ (1234 : Int) ≤ 65535)
    ∧ (∃ authority front digits, endpointText "FD00:0::0001" 1234 = "tcp://" ++ authority
      ∧ Text.cutLast? ':' authority.toList = some (front, digits)
      ∧ Address.ofText? (String.ofList (Address.unbracketed front))
        = some (.v6 [0xfd00, 0, 0, 0, 0, 0, 0, 1])
      ∧ IsDecimal digits 1234 ∧ Address.isBracketed front = true)
    ∧ endpointText "FD00:0::0001" 1234 = endpointText "fd00::1" 1234
    ∧ endpointText "FD00:0::0001" 1234 ≠ endpointText "::FFFF:1.2.3.4" 1234 := by
  have hspelled : Address.ofText? "FD00:0::0001" = some (.v6 [0xfd00, 0, 0, 0, 0, 0, 0, 1]) := by
    decide
  have hshort : Address.ofText? "fd00::1" = some (.v6 [0xfd00, 0, 0, 0, 0, 0, 0, 1]) := by decide
  have hmapped : Address.ofText? "::FFFF:1.2.3.4"
      = some (.v6 [0, 0, 0, 0, 0, 0xffff, 0x102, 0x304]) := by decide
  have hport : (0 : Int) ≤ 1234 ∧ (1234 : Int) ≤ 65535 := by decide
  obtain ⟨⟨authority, front, digits, htext, hcut, hhost, hdigits, hbrackets⟩, hsame⟩ :=
    endpoint_told hspelled hport
  refine ⟨⟨hspelled, hport⟩, ⟨authority, front, digits, htext, hcut, hhost, hdigits,
    hbrackets.mpr rfl⟩, (hsame _ _ _ hshort hport).mpr ⟨rfl, rfl⟩, fun h => ?_⟩
  exact absurd ((hsame _ _ _ hmapped hport).mp h).1 (by decide)

end BuildFleet
