import Transcoding.Adapter.Document
import Transcoding.Proofs.Adapter.Identifier
import Transcoding.Proofs.Adapter.Layout
import Transcoding.Proofs.Text.Casing
import Mathlib.Data.List.Nodup

/-!
# The names of modules

The module of a service is named by the full name of the service in snake case. Services that share
this name are numbered from the second one on. A service is labelled by its name and by how often
that name has come before it (`labels`); no two services have the same label, and the name of the
module is written from the label (`Label.name`).

Writing is injective on the numbered labels and on the others, but not on all of them: a numbered
name can be the name of another service. `outline_moduleNames` says that two modules have the same
name in this case only, and so when the names of all modules differ. Services that share a name
never get the same module, but a third one can (`Service.modules_collide`).
-/

namespace Transcoding

open Transcoding.Text

/-! ## Numbered names -/

/-- A number in digits holds digits only. -/
theorem not_mem_decimal {c : Char} (h : c.isDigit = false) (n : Nat) : c ∉ (decimal n).toList := by
  rw [decimal, String.toList_ofList]
  intro hmem
  have hdigit := Nat.isDigit_of_mem_toDigits (by decide) (by decide) hmem
  cases h.symm.trans hdigit

/-- Different numbers are different in digits. -/
theorem decimal_injective {m n : Nat} (h : decimal m = decimal n) : m = n := by
  have hdigits : Nat.toDigits 10 m = Nat.toDigits 10 n := String.ofList_injective h
  calc
    m = Nat.ofDigitChars 10 (Nat.toDigits 10 m) 0 := Nat.ofDigitChars_ten_toDigits.symm
    _ = Nat.ofDigitChars 10 (Nat.toDigits 10 n) 0 := by rw [hdigits]
    _ = n := Nat.ofDigitChars_ten_toDigits

/-- A name is numbered in one way. -/
theorem eq_of_numbered_eq {a b : String} {m n : Nat}
    (h : a ++ "_" ++ decimal m = b ++ "_" ++ decimal n) : a = b ∧ m = n := by
  -- The number is what comes after the last underscore.
  have hcut : ∀ (base : String) (k : Nat),
      cutAt '_' (base ++ "_" ++ decimal k).toList.reverse =
        some ((decimal k).toList.reverse, base.toList.reverse) := by
    intro base k
    refine cutAt_eq_some_iff.2 ⟨by simp, ?_⟩
    rw [List.mem_reverse]
    exact not_mem_decimal rfl k
  have hpair : some ((decimal m).toList.reverse, a.toList.reverse) =
      some ((decimal n).toList.reverse, b.toList.reverse) := by
    rw [← hcut a m, h, hcut b n]
  simp only [Option.some.injEq, Prod.mk.injEq, List.reverse_inj, String.toList_inj] at hpair
  exact ⟨hpair.2, decimal_injective hpair.1⟩

/-! ## Labels -/

/-- The name that a service gives to its module, and how many services before it give the same
one. -/
structure Label where
  base : String
  earlier : Nat
  deriving DecidableEq

namespace Label

/-- The label as a name: the first service with a name has the name itself, and the later ones have
a number after it. -/
def name (label : Label) : String :=
  match label.earlier with
  | 0 => label.base
  | n + 1 => label.base ++ "_" ++ decimal (n + 2)

/-- Two labels are written in the same way if they are the same, or if one is a name that is the
other one with its number. -/
theorem name_eq_iff {a b : Label} :
    a.name = b.name ↔
      a = b ∨ (a.earlier = 0 ∧ b.earlier ≠ 0 ∧ a.base = b.name) ∨
        (b.earlier = 0 ∧ a.earlier ≠ 0 ∧ b.base = a.name) := by
  obtain ⟨base, m⟩ := a
  obtain ⟨base', n⟩ := b
  cases m with
  | zero =>
    cases n with
    | zero => simp [name]
    | succ n => simp [name]
  | succ m =>
    cases n with
    | zero => simp [name, eq_comm]
    | succ n =>
      simp only [name, mk.injEq, Nat.add_right_cancel_iff, Nat.succ_ne_zero, false_and, or_false]
      constructor
      · intro h
        obtain ⟨rfl, heq⟩ := eq_of_numbered_eq h
        exact ⟨rfl, by omega⟩
      · rintro ⟨rfl, rfl⟩
        rfl

/-- A number changes the name of a label. -/
theorem base_ne_name {label : Label} (h : label.earlier ≠ 0) : label.base ≠ label.name := by
  obtain ⟨base, n⟩ := label
  cases n with
  | zero => exact absurd rfl h
  | succ n =>
    intro heq
    have hlength := congrArg (·.toList.length) heq
    simp [name] at hlength

/-- The name of a label does not hold the sign of a raw identifier if its base does not. -/
theorem hash_not_mem_name {label : Label} (h : '#' ∉ label.base.toList) :
    '#' ∉ label.name.toList := by
  unfold name
  split
  · exact h
  · next n _ => simp [h, not_mem_decimal (c := '#') rfl (n + 2)]

end Label

/-- The labels of services, given the names before them. -/
def labels : List String → List String → List Label
  | _, [] => []
  | earlier, base :: bases => ⟨base, earlier.count base⟩ :: labels (base :: earlier) bases

/-- A name has the labels from the number of services before to the number of all services. -/
theorem mem_labels_iff {earlier bases : List String} {label : Label} :
    label ∈ labels earlier bases ↔
      earlier.count label.base ≤ label.earlier ∧
        label.earlier < earlier.count label.base + bases.count label.base := by
  obtain ⟨name, n⟩ := label
  induction bases generalizing earlier with
  | nil => simp [labels]
  | cons base bases ih =>
    rw [labels, List.mem_cons, ih]
    by_cases hname : base = name
    · subst hname
      simp only [Label.mk.injEq, true_and, List.count_cons_self]
      omega
    · have hne : ¬ name = base := fun h => hname h.symm
      simp [hname, hne]

/-- No label is given out twice. -/
theorem nodup_labels (earlier bases : List String) : (labels earlier bases).Nodup := by
  induction bases generalizing earlier with
  | nil => exact .nil
  | cons base bases ih =>
    refine List.nodup_cons.2 ⟨fun hmem => ?_, ih _⟩
    have hcount : (base :: earlier).count base ≤ earlier.count base := (mem_labels_iff.1 hmem).1
    rw [List.count_cons_self] at hcount
    omega

/-! ## Modules -/

/-- The names that services give to their modules. -/
def moduleBases (services : List Service) : List String :=
  services.map fun service => snakeCase service.fullName

/-- No number that is given out makes a name that some service has by itself. -/
def NumbersFree (bases : List String) : Prop :=
  ∀ base ∈ bases, ∀ n < bases.count base, n ≠ 0 → Label.name ⟨base, n⟩ ∉ bases

/-- Whether the numbers make free names can be decided. -/
instance (bases : List String) : Decidable (NumbersFree bases) :=
  inferInstanceAs (Decidable (∀ base ∈ bases, ∀ n < bases.count base, n ≠ 0 →
    Label.name ⟨base, n⟩ ∉ bases))

/-- The name of a module is the identifier of its label. -/
theorem moduleName_eq (earlier : List String) (base : String) :
    moduleName earlier base = rustIdentifier (Label.name ⟨base, earlier.count base⟩) := by
  unfold moduleName Label.name
  cases earlier.count base <;> rfl

/-- The modules of an outline have the names that are written from the labels of the services. -/
theorem moduleNames_eq {settings : Settings} {earlier : List String} {services : List Service}
    {modules : List ServiceModule} (h : serviceModules settings earlier services = .ok modules) :
    modules.map (fun m => (snakeCase m.fullName, m.moduleName)) =
      (labels earlier (moduleBases services)).map fun label =>
        (label.base, rustIdentifier label.name) := by
  induction services generalizing earlier modules with
  | nil =>
    cases h
    rfl
  | cons service services ih =>
    obtain ⟨operations, rest, -, hrest, rfl⟩ := serviceModules_cons_eq_ok h
    rw [List.map_cons, ih hrest, moduleName_eq]
    rfl

section
variable {services : List Service} {a b : Label}

/-- A label is given out if more services have its base than it counts before it. -/
theorem mem_labels_moduleBases :
    a ∈ labels [] (moduleBases services) ↔ a.earlier < (moduleBases services).count a.base := by
  simp [mem_labels_iff]

/-- Labels of services give the same identifier if they are written in the same way. -/
theorem rustIdentifier_name_eq_iff (ha : a ∈ labels [] (moduleBases services))
    (hb : b ∈ labels [] (moduleBases services)) :
    rustIdentifier a.name = rustIdentifier b.name ↔ a.name = b.name := by
  have hhash : ∀ label ∈ labels [] (moduleBases services), '#' ∉ label.name.toList := by
    intro label hlabel
    have hcount : 0 < (moduleBases services).count label.base := by
      have := mem_labels_moduleBases.1 hlabel
      omega
    obtain ⟨service, -, hbase⟩ := List.mem_map.1 (List.count_pos_iff.1 hcount)
    refine Label.hash_not_mem_name ?_
    rw [← hbase]
    exact hash_not_mem_snakeCase service.fullName
  exact ⟨eq_of_rustIdentifier_eq (hhash a ha) (hhash b hb), fun h => h ▸ rfl⟩

end

/-- The names of the labels differ if no numbered one is a name of its own. -/
theorem nodup_names_iff (services : List Service) :
    ((labels [] (moduleBases services)).map fun label => rustIdentifier label.name).Nodup ↔
      NumbersFree (moduleBases services) := by
  rw [List.nodup_map_iff_inj_on (nodup_labels _ _)]
  constructor
  · intro hinj base hbase n hn hne hmem
    have hplain : (⟨Label.name ⟨base, n⟩, 0⟩ : Label) ∈ labels [] (moduleBases services) :=
      mem_labels_moduleBases.2 (List.count_pos_iff.2 hmem)
    have hnumbered : (⟨base, n⟩ : Label) ∈ labels [] (moduleBases services) :=
      mem_labels_moduleBases.2 hn
    have heq := hinj _ hplain _ hnumbered rfl
    exact hne (congrArg Label.earlier heq).symm
  · intro hfree a ha b hb heq
    have hnumber : ∀ x ∈ labels [] (moduleBases services),
        ∀ y ∈ labels [] (moduleBases services), y.earlier ≠ 0 → x.base ≠ y.name := by
      intro x hx y hy hne hname
      rw [mem_labels_moduleBases] at hx hy
      have hxmem : x.base ∈ moduleBases services := List.count_pos_iff.1 (by omega)
      have hymem : y.base ∈ moduleBases services := List.count_pos_iff.1 (by omega)
      exact hfree y.base hymem y.earlier hy hne (hname ▸ hxmem)
    rw [rustIdentifier_name_eq_iff ha hb, Label.name_eq_iff] at heq
    rcases heq with rfl | ⟨-, hne, hname⟩ | ⟨-, hne, hname⟩
    · rfl
    · exact absurd hname (hnumber a ha b hb hne)
    · exact absurd hname (hnumber b hb a ha hne)

/-- Services that give the same name get different modules. -/
theorem pairwise_moduleName_ne {settings : Settings} {services : List Service}
    {modules : List ServiceModule} (h : outline settings services = .ok modules) :
    modules.Pairwise fun m m' =>
      snakeCase m.fullName = snakeCase m'.fullName → m.moduleName ≠ m'.moduleName := by
  have hlabels : (labels [] (moduleBases services)).Pairwise fun a b =>
      a.base = b.base → rustIdentifier a.name ≠ rustIdentifier b.name := by
    refine (nodup_labels [] (moduleBases services)).imp_of_mem fun {a b} ha hb hne hbase heq => ?_
    rw [rustIdentifier_name_eq_iff ha hb, Label.name_eq_iff] at heq
    rcases heq with heq | ⟨-, hb0, hname⟩ | ⟨-, ha0, hname⟩
    · exact hne heq
    · exact Label.base_ne_name hb0 (hbase ▸ hname)
    · exact Label.base_ne_name ha0 (hbase ▸ hname)
  have hmap := moduleNames_eq h
  have hpairs : ((labels [] (moduleBases services)).map fun label =>
      (label.base, rustIdentifier label.name)).Pairwise fun p q => p.1 = q.1 → p.2 ≠ q.2 :=
    List.pairwise_map.2 hlabels
  rw [← hmap, List.pairwise_map] at hpairs
  exact hpairs

/-- **When the names of modules differ.** A document has a module for each service. Services that
give the same name to their modules never get the same one, and the names of all modules differ just
if no number that is given out makes a name that some service has by itself. -/
theorem outline_moduleNames (settings : Settings) {services : List Service}
    (h : ∀ service ∈ services, service.table.Readable) :
    ∃ modules adapter header, outline settings services = .ok modules ∧
      generate settings services = .ok adapter ∧
      adapter.content = linesText (header ++
        (modules.map (ServiceModule.text settings.runtimeCrate)).flatMap ModuleText.lines) ∧
      List.Forall₂ (ServiceModule.Describes settings) services modules ∧
      (modules.Pairwise fun m m' =>
        snakeCase m.fullName = snakeCase m'.fullName → m.moduleName ≠ m'.moduleName) ∧
      ((modules.map (·.moduleName)).Nodup ↔ NumbersFree (moduleBases services)) := by
  obtain ⟨adapter, hadapter⟩ := exists_generate settings h
  obtain ⟨header, modules, hmodules, hcontent⟩ := exists_outline_of_generate hadapter
  refine ⟨modules, adapter, header, hmodules, hadapter, hcontent, serviceModules_eq_ok hmodules,
    pairwise_moduleName_ne hmodules, ?_⟩
  have hnames := congrArg (List.map Prod.snd) (moduleNames_eq hmodules)
  simp only [List.map_map, Function.comp_def] at hnames
  rw [hnames]
  exact nodup_names_iff services

/-- Three services, of which two share their full name and the third one differs from them in case
and separators. All of them give the same name to their modules. -/
def Service.alike : List Service :=
  [.single "users.v1" "UserService" "/v1/users/\x7bid\x7d",
   .single "users.v1" "UserService" "/v1/people/\x7bid\x7d",
   .single "users_v1" "user_service" "/v1/members/\x7bid\x7d"]

/-- The three services get the modules `users_v1_user_service`, `users_v1_user_service_2` and
`users_v1_user_service_3`. -/
theorem Service.modules_alike :
    ∃ modules, outline {} alike = .ok modules ∧
      modules.map (·.moduleName) =
        ["users_v1_user_service", "users_v1_user_service_2", "users_v1_user_service_3"] ∧
      (modules.map (·.moduleName)).Nodup := by
  have hreadable : ∀ service ∈ alike, service.table.Readable := by decide +kernel
  have hnames : (outline {} alike).map (List.map (·.moduleName)) =
      .ok ["users_v1_user_service", "users_v1_user_service_2", "users_v1_user_service_3"] := by
    decide +kernel
  obtain ⟨modules, _, _, hmodules, -, -, -, -, hnodup⟩ := outline_moduleNames {} hreadable
  rw [hmodules] at hnames
  exact ⟨modules, hmodules, Except.ok.inj hnames, hnodup.2 (by decide +kernel)⟩

/-- Two services with the same full name, and a third one whose name is theirs with a number. -/
def Service.numbered : List Service :=
  [.single "users.v1" "Users" "/v1/users/\x7bid\x7d",
   .single "users.v1" "Users" "/v1/people/\x7bid\x7d",
   .single "users.v1" "Users_2" "/v1/members/\x7bid\x7d"]

/-- The second and the third service get the same module, and the document declares it twice. -/
theorem Service.modules_collide :
    (∀ service ∈ numbered, service.table.Readable) ∧
      ∃ modules, outline {} numbered = .ok modules ∧
        modules.map (·.moduleName) = ["users_v1_users", "users_v1_users_2", "users_v1_users_2"] ∧
        ¬ (modules.map (·.moduleName)).Nodup ∧
        (documentLines {} (.ofServices numbered) modules).count
          "pub mod users_v1_users_2 \x7b" = 2 := by
  refine ⟨by decide +kernel, ?_⟩
  have hnames : (outline {} numbered).map (List.map (·.moduleName)) =
      .ok ["users_v1_users", "users_v1_users_2", "users_v1_users_2"] := by
    decide +kernel
  have hcount : (outline {} numbered).map (fun modules =>
      (documentLines {} (.ofServices numbered) modules).count
        "pub mod users_v1_users_2 \x7b") = .ok 2 := by
    decide +kernel
  cases hmodules : outline {} numbered with
  | error error =>
    rw [hmodules] at hnames
    cases hnames
  | ok modules =>
    rw [hmodules] at hnames hcount
    refine ⟨modules, rfl, Except.ok.inj hnames, ?_, Except.ok.inj hcount⟩
    rw [Except.ok.inj hnames]
    decide

end Transcoding
