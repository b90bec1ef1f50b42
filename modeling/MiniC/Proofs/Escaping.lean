import MiniC.Markup.Escape
import MiniC.Markup.Reference

/-!
# Escaped text

Escaping leaves no angle bracket behind and can be undone: replacing the
references of an escaped text gives the text back.  In particular no two texts
are escaped alike.
-/

namespace MiniC.Markup

/-- Whether a character would be read as markup. -/
def isMarkup (c : Char) : Bool :=
  c = '&' || c = '<' || c = '>'

/-- What escaping does to a character: three become references, the others stay. -/
theorem escapeChar_cases (c : Char) :
    c = '&' ∧ escapeChar c = ['&', 'a', 'm', 'p', ';'] ∨
      c = '<' ∧ escapeChar c = ['&', 'l', 't', ';'] ∨
      c = '>' ∧ escapeChar c = ['&', 'g', 't', ';'] ∨
      isMarkup c = false ∧ escapeChar c = [c] := by
  unfold escapeChar isMarkup
  grind

theorem escapeChar_of_not_isMarkup {c : Char} (plain : isMarkup c = false) :
    escapeChar c = [c] := by
  rcases escapeChar_cases c with ⟨rfl, _⟩ | ⟨rfl, _⟩ | ⟨rfl, _⟩ | ⟨_, written⟩
  · exact absurd plain (by decide)
  · exact absurd plain (by decide)
  · exact absurd plain (by decide)
  · exact written

theorem escape_of_plain {text : List Char} (plain : ∀ c ∈ text, isMarkup c = false) :
    escape text = text := by
  induction text with
  | nil => rfl
  | cons c rest ih =>
      obtain ⟨first, others⟩ := List.forall_mem_cons.1 plain
      rw [escape_cons, escapeChar_of_not_isMarkup first, ih others, List.singleton_append]

/-- What holds of the characters that references are made of, and of the characters
of a text that are no markup, holds of every character of the escaped text. -/
theorem forall_mem_escape {text : List Char} {P : Char → Prop}
    (references : ∀ c ∈ ['&', 'a', 'm', 'p', 'l', 'g', 't', ';'], P c)
    (plain : ∀ c ∈ text, isMarkup c = false → P c) : ∀ c ∈ escape text, P c := by
  intro c member
  obtain ⟨source, known, written⟩ := List.mem_flatMap.1 member
  rcases escapeChar_cases source with ⟨_, form⟩ | ⟨_, form⟩ | ⟨_, form⟩ | ⟨ordinary, form⟩
  · rw [form] at written
    exact references c (by revert written; simp only [List.mem_cons]; grind)
  · rw [form] at written
    exact references c (by revert written; simp only [List.mem_cons]; grind)
  · rw [form] at written
    exact references c (by revert written; simp only [List.mem_cons]; grind)
  · rw [form, List.mem_singleton] at written
    exact written ▸ plain source known ordinary

theorem opening_not_mem_escape (text : List Char) : '<' ∉ escape text := by
  have others : ∀ c ∈ escape text, c ≠ '<' := by
    refine forall_mem_escape (by simp) fun c _ ordinary bracket => ?_
    rw [bracket] at ordinary
    exact absurd ordinary (by decide)
  exact fun member => others '<' member rfl

/-! ## Replacing the references again -/

theorem unescapeFrom_append (first rest : List Char) :
    unescapeFrom first.length (first ++ rest) = unescapeFrom 0 rest := by
  induction first with
  | nil => rfl
  | cons c others ih => exact ih

theorem unescapeFrom_named (name : List Char) (text : String) (rest : List Char)
    (scanned : Reference.scan? (name ++ rest) = some (.named name, name.length))
    (known : entity? (String.ofList name) = some text) :
    unescapeFrom 0 ('&' :: (name ++ rest)) = (unescapeFrom 0 rest).map (text.toList ++ ·) := by
  rw [unescapeFrom, scanned]
  simp only [Reference.text, Reference.nameText, known, unescapeFrom_append]
  cases unescapeFrom 0 rest with
  | error oversized => rfl
  | ok tail => rfl

theorem unescapeFrom_plain {c : Char} (rest : List Char) (plain : isMarkup c = false) :
    unescapeFrom 0 (c :: rest) = (unescapeFrom 0 rest).map (c :: ·) := by
  have ordinary : c ≠ '&' := fun ampersand => by
    rw [ampersand] at plain
    exact absurd plain (by decide)
  rw [unescapeFrom]
  · cases unescapeFrom 0 rest with
    | error oversized => rfl
    | ok tail => rfl
  · exact ordinary

theorem unescapeFrom_escapeChar (c : Char) (rest : List Char) :
    unescapeFrom 0 (escapeChar c ++ rest) = (unescapeFrom 0 rest).map (c :: ·) := by
  rcases escapeChar_cases c with ⟨rfl, form⟩ | ⟨rfl, form⟩ | ⟨rfl, form⟩ | ⟨ordinary, form⟩
  · rw [form]
    exact unescapeFrom_named ['a', 'm', 'p', ';'] "&" rest (by rfl) (by decide)
  · rw [form]
    exact unescapeFrom_named ['l', 't', ';'] "<" rest (by rfl) (by decide)
  · rw [form]
    exact unescapeFrom_named ['g', 't', ';'] ">" rest (by rfl) (by decide)
  · rw [form]
    exact unescapeFrom_plain rest ordinary

/-- Escaping is undone by replacing references. -/
theorem unescape_escape (text : List Char) : unescape (escape text) = .ok text := by
  unfold unescape
  induction text with
  | nil => rfl
  | cons c rest ih => rw [escape_cons, unescapeFrom_escapeChar, ih, Except.map]

theorem escape_injective {first second : List Char} (same : escape first = escape second) :
    first = second := by
  have read := unescape_escape first
  rw [same, unescape_escape second] at read
  exact (Except.ok.inj read).symm

end MiniC.Markup
