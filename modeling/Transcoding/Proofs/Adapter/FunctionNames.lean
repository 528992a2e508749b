import Transcoding.Proofs.Adapter.Outline
import Transcoding.Proofs.Text.Casing

/-!
# The names of functions

The function of a method is named by the name of the method in snake case, as a raw identifier if
that is one of `rustKeywords`. For a method with an ASCII name it is a word of lower-case letters,
digits and underscores (`isSnakeWord_snakeCase`). Such a word is a legal identifier unless it is a
keyword, and a legal raw identifier unless it is one of the keywords that begin a path.

The words that are escaped are not quite those that have to be: `legalIdentifier_iff` says that the
identifier of a word is illegal for the keywords that are reserved and not escaped, and for the
keywords of paths, which are escaped and cannot be. `Method.functionName_legal_iff` is the same for
methods.
-/

namespace Transcoding

open Transcoding.Text

/-! ## Legal identifiers -/

/-- The keywords of the 2021 edition that have a meaning. -/
def strictKeywords : List String :=
  ["as", "async", "await", "break", "const", "continue", "crate", "dyn", "else", "enum", "extern",
   "false", "fn", "for", "if", "impl", "in", "let", "loop", "match", "mod", "move", "mut", "pub",
   "ref", "return", "self", "Self", "static", "struct", "super", "trait", "true", "type", "unsafe",
   "use", "where", "while"]

/-- The keywords of the 2021 edition that are kept for later use. -/
def reservedKeywords : List String :=
  ["abstract", "become", "box", "do", "final", "macro", "override", "priv", "try", "typeof",
   "unsized", "virtual", "yield"]

/-- The keywords that begin a path. They cannot be written as raw identifiers. -/
def pathKeywords : List String := ["crate", "self", "super"]

/-- A word in snake case that is not a keyword, or one that is written as a raw identifier. -/
inductive LegalIdentifier : String → Prop
  | plain {name : String} : isSnakeWord name.toList = true → name ∉ strictKeywords →
      name ∉ reservedKeywords → LegalIdentifier name
  | raw {name : String} : isSnakeWord name.toList = true → name ∉ pathKeywords →
      LegalIdentifier ("r#" ++ name)

/-- A word in snake case does not hold the sign of a raw identifier. -/
theorem hash_not_mem_of_isSnakeWord {text : List Char} (h : isSnakeWord text = true) :
    '#' ∉ text := by
  intro hmem
  cases text with
  | nil => cases hmem
  | cons c rest =>
    simp only [isSnakeWord, Bool.and_eq_true, List.all_eq_true] at h
    rcases List.mem_cons.1 hmem with rfl | hrest
    · exact absurd h.1 (by decide)
    · exact absurd (h.2 _ hrest) (by decide)

section
variable {name : String}

/-- A word is a legal identifier if it is not a keyword. -/
theorem legalIdentifier_plain_iff (hname : isSnakeWord name.toList = true) :
    LegalIdentifier name ↔ name ∉ strictKeywords ∧ name ∉ reservedKeywords := by
  refine ⟨fun h => ?_, fun h => .plain hname h.1 h.2⟩
  cases h with
  | plain _ hstrict hreserved => exact ⟨hstrict, hreserved⟩
  | raw =>
    refine absurd ?_ (hash_not_mem_of_isSnakeWord hname)
    simp

/-- A word can be written as a raw identifier if it does not begin paths. -/
theorem legalIdentifier_raw_iff (hname : isSnakeWord name.toList = true) :
    LegalIdentifier ("r#" ++ name) ↔ name ∉ pathKeywords := by
  refine ⟨fun h => ?_, .raw hname⟩
  generalize hraw : "r#" ++ name = identifier at h
  cases h with
  | plain hword =>
    refine absurd ?_ (hash_not_mem_of_isSnakeWord hword)
    simp [← hraw]
  | raw _ hpath =>
    rw [(String.append_right_inj "r#").1 hraw]
    exact hpath

/-! ## Identifiers of names -/

/-- The keywords that are not escaped. -/
def unescapedKeywords : List String :=
  ["abstract", "become", "do", "final", "macro", "override", "priv", "typeof", "unsized", "virtual"]

/-- The identifier of a word is legal unless the word is a keyword that is not escaped or that
cannot be. -/
theorem legalIdentifier_iff (hname : isSnakeWord name.toList = true) :
    LegalIdentifier (rustIdentifier name) ↔ name ∉ unescapedKeywords ∧ name ∉ pathKeywords := by
  unfold rustIdentifier
  split
  · next hkeyword =>
    have hescaped : ∀ word ∈ rustKeywords, word ∉ unescapedKeywords := by decide +kernel
    rw [legalIdentifier_raw_iff hname]
    exact (and_iff_right (hescaped name (List.contains_iff_mem.1 hkeyword))).symm
  · next hkeyword =>
    have hkeyword : name ∉ rustKeywords := fun hmem => hkeyword (List.contains_iff_mem.2 hmem)
    rw [legalIdentifier_plain_iff hname]
    have hpath : name ∉ pathKeywords := by
      have hescaped : ∀ word ∈ pathKeywords, word ∈ rustKeywords := by decide +kernel
      exact fun hmem => hkeyword (hescaped name hmem)
    have hstrict : name ∉ strictKeywords := by
      have hescaped : ∀ word ∈ strictKeywords, word ∈ rustKeywords ∨ ¬ isSnakeWord word.toList := by
        decide +kernel
      exact fun hmem => (hescaped name hmem).elim hkeyword fun hword => hword hname
    have hreserved : name ∉ reservedKeywords ↔ name ∉ unescapedKeywords := by
      have hescaped : ∀ word ∈ reservedKeywords,
          word ∈ rustKeywords ∨ word ∈ unescapedKeywords := by decide +kernel
      have hunescaped : ∀ word ∈ unescapedKeywords, word ∈ reservedKeywords := by decide +kernel
      exact not_congr ⟨fun hmem => (hescaped name hmem).resolve_left hkeyword, hunescaped name⟩
    rw [and_iff_right hstrict, and_iff_left hpath, hreserved]

end

/-! ## Functions of methods -/

/-- **The names of functions.** The function of a method with an ASCII name is named by a word in
snake case or by a raw identifier of it. The name is a legal identifier unless the word is a
reserved keyword that is not escaped, or one of the keywords that begin a path. -/
theorem Method.functionName_legal_iff {settings : Settings} {service : String} {method : Method}
    {op : Operation} (hname : isAsciiName method.name.toList = true)
    (h : method.operation settings service = .ok op) :
    isSnakeWord (snakeCase method.name).toList = true ∧
    (op.functionName = snakeCase method.name ∨ op.functionName = "r#" ++ snakeCase method.name) ∧
    (LegalIdentifier op.functionName ↔
      snakeCase method.name ∉ unescapedKeywords ∧ snakeCase method.name ∉ pathKeywords) := by
  have hword := isSnakeWord_snakeCase hname
  rw [(describes_of_operation h).function]
  refine ⟨hword, ?_, legalIdentifier_iff hword⟩
  unfold rustIdentifier
  split
  · exact .inr rfl
  · exact .inl rfl

/-- A method with the given name that serves `/v1/users`. -/
def Method.named (name : String) : Method :=
  { name, inputType := "Request", outputType := "User"
    binding := { verb := .get, pathTemplate := "/v1/users" } }

/-- A named method has an operation, whose function is named after it. -/
theorem Method.exists_operation_named (name : String) :
    ∃ op, (Method.named name).operation {} "users.v1.Users" = .ok op ∧
      op.functionName = rustIdentifier (snakeCase name) := by
  have hparse : ∃ template, PathTemplate.parse "/v1/users" = .ok template := ⟨_, rfl⟩
  obtain ⟨op, hop⟩ : ∃ op, (Method.named name).operation {} "users.v1.Users" = .ok op :=
    Method.exists_operation_iff.2 hparse
  exact ⟨op, hop, (describes_of_operation hop).function⟩

/-- The function of the method `MATCH_` is `r#match`, which is legal. -/
theorem Method.functionName_legal_iff_match :
    ∃ op, (Method.named "MATCH_").operation {} "users.v1.Users" = .ok op ∧
      isAsciiName (Method.named "MATCH_").name.toList = true ∧ op.functionName = "r#match" ∧
      LegalIdentifier op.functionName := by
  obtain ⟨op, hop, hfunction⟩ := exists_operation_named "MATCH_"
  have hname : isAsciiName (Method.named "MATCH_").name.toList = true := by decide +kernel
  have hmatch : rustIdentifier (snakeCase "MATCH_") = "r#match" := by decide +kernel
  refine ⟨op, hop, hname, hfunction.trans hmatch, (functionName_legal_iff hname hop).2.2.2 ?_⟩
  decide +kernel

/-- The functions of the methods `Do` and `Self` are `do`, a reserved keyword, and `r#self`, which
is no raw identifier. -/
theorem Method.functionName_illegal :
    (∃ op, (Method.named "Do").operation {} "users.v1.Users" = .ok op ∧
      isAsciiName (Method.named "Do").name.toList = true ∧ op.functionName = "do" ∧
      ¬ LegalIdentifier op.functionName) ∧
    ∃ op, (Method.named "Self").operation {} "users.v1.Users" = .ok op ∧
      isAsciiName (Method.named "Self").name.toList = true ∧ op.functionName = "r#self" ∧
      ¬ LegalIdentifier op.functionName := by
  obtain ⟨op, hop, hfunction⟩ := exists_operation_named "Do"
  obtain ⟨op', hop', hfunction'⟩ := exists_operation_named "Self"
  have hdo : rustIdentifier (snakeCase "Do") = "do" := by decide +kernel
  have hself : rustIdentifier (snakeCase "Self") = "r#self" := by decide +kernel
  rw [hdo] at hfunction
  rw [hself] at hfunction'
  refine ⟨⟨op, hop, by decide +kernel, hfunction, ?_⟩, op', hop', by decide +kernel, hfunction', ?_⟩
  · rw [hfunction, legalIdentifier_plain_iff (by decide +kernel)]
    decide +kernel
  · have hword : isSnakeWord "self".toList = true := by decide +kernel
    rw [hfunction']
    exact mt (legalIdentifier_raw_iff hword).1 (by decide +kernel)

end Transcoding
