import ShaderCalls.Proofs.Index.BodyCalls
import ShaderCalls.Proofs.Index.IndexInvariant

/-!
# Further files

Files that are added to others take nothing away, where no two files declare one identity: what was
indexed stays indexed, and the types that have a method of a name become more and never fewer.  So a
call of a method by its name alone finds what it found, or it finds nothing because another type has
the method as well.  Only a call that no type had a method for may find a method that is new.
-/

namespace ShaderCalls

open Source (CallSite)

theorem Apart.of_subset {κ : Type} {keys : SourceFile → List κ} {files extended : List SourceFile}
    (hapart : Apart keys extended) (hsubset : files ⊆ extended) : Apart keys files :=
  fun left hleft right hright => hapart left (hsubset hleft) right (hsubset hright)

namespace SymbolIndex

/-! ## Methods of a name -/

variable {files extended : List SourceFile} {id : FunctionId} {function : DeclaredFunction}
  {owner name : String}

theorem function?_of_subset (hids : Apart SourceFile.ids extended) (hsubset : files ⊆ extended)
    (hfunction : (ofFiles files).function? id = some function) :
    (ofFiles extended).function? id = some function := by
  rw [function?_eq_some_iff (hids.of_subset hsubset)] at hfunction
  obtain ⟨file, hfile, hfirst⟩ := hfunction
  exact (function?_eq_some_iff hids).mpr ⟨file, hsubset hfile, hfirst⟩

theorem HasMethod.of_subset (hids : Apart SourceFile.ids extended) (hsubset : files ⊆ extended)
    (hmethod : (ofFiles files).HasMethod owner name) :
    (ofFiles extended).HasMethod owner name := by
  obtain ⟨function, hfunction, howner⟩ := hmethod
  exact ⟨function, function?_of_subset hids hsubset hfunction, howner⟩

/-! ## Calls by a name alone -/

/-- What a call of a method by its name alone finds in an index and in one with more functions. -/
inductive CarriesOver (index : SymbolIndex) (name : String) :
    Option FunctionId → Option FunctionId → Prop
  /-- The one type that has the method is still the only one. -/
  | same {owner : String} (hmethod : index.HasMethod owner name) :
      CarriesOver index name (some ⟨owner, name⟩) (some ⟨owner, name⟩)
  /-- Another type has the method as well. -/
  | refused {owner : String} (hmethod : index.HasMethod owner name) :
      CarriesOver index name (some ⟨owner, name⟩) none
  /-- Several types had the method. -/
  | unresolved : CarriesOver index name none none
  /-- No type had the method, so the call was one of an intrinsic. -/
  | intrinsic (hnone : ∀ owner, ¬ index.HasMethod owner name) (found : Option FunctionId) :
      CarriesOver index name (some ⟨intrinsicOwner, name⟩) found

theorem MethodCall.carriesOver {before after : SymbolIndex} {found found' : Option FunctionId}
    (hmore : ∀ owner, before.HasMethod owner name → after.HasMethod owner name)
    (hbefore : MethodCall before name found) (hafter : MethodCall after name found') :
    CarriesOver before name found found' := by
  cases hbefore with
  | none hnone => exact .intrinsic hnone found'
  | @one owner hone _ =>
      cases hafter with
      | none hnone => exact absurd (hmore owner hone) (hnone owner)
      | one _ honly =>
          rw [← honly owner (hmore owner hone)]
          exact .same hone
      | several => exact .refused hone
  | @several left right hne hleft hright =>
      cases hafter with
      | none hnone => exact absurd (hmore left hleft) (hnone left)
      | one _ honly =>
          have hsame :=
            (honly left (hmore left hleft)).trans (honly right (hmore right hright)).symm
          exact absurd hsame hne
      | several => exact .unresolved

/-- A function stays indexed as it is when files are added, and a call in it of a method by its name
alone carries over.  If the call finds nothing, then neither does the function have callees. -/
theorem method_carriesOver (hids : Apart SourceFile.ids extended) (hsubset : files ⊆ extended)
    (hfunction : function ∈ (ofFiles files).functions) {site : CallSite}
    (hsite : site ∈ function.sites) (htarget : site.target = .method name) :
    (ofFiles extended).function? function.id = some function ∧
      CarriesOver (ofFiles files) name ((ofFiles files).callee? function.scope site.target)
        ((ofFiles extended).callee? function.scope site.target) ∧
      ((ofFiles extended).callee? function.scope site.target = none →
        ∃ text, ((ofFiles extended).declarationOf function).callees function.id =
          .error (.unresolvedCall function.id text)) := by
  have hindexed : (ofFiles files).function? function.id = some function :=
    (function?_eq_some_iff_mem (nodup_ids_ofOutline (Outline.ofFiles files))).mpr ⟨hfunction, rfl⟩
  refine ⟨function?_of_subset hids hsubset hindexed, ?_, exists_unresolvedCall hsite⟩
  rw [htarget]
  exact MethodCall.carriesOver (fun _ => HasMethod.of_subset hids hsubset)
    (methodCall_callee? files function.scope name) (methodCall_callee? extended function.scope name)

/-- A type with a method that a function calls by its name alone. -/
def callsStep : List SourceFile :=
  [⟨"shaders", "shaders.rs", "struct A; impl A { fn step(&self) {} } fn f(x: &A) { x.step(); }"⟩]

/-- Another type that has the method. -/
def stepsTwice : List SourceFile :=
  ⟨"shaders::walk", "walk.rs", "struct B; impl B { fn step(&self) {} }"⟩ :: callsStep

/-- The call finds its method until another type has it. -/
theorem callsStep_carriesOver :
    Apart SourceFile.ids stepsTwice ∧ callsStep ⊆ stepsTwice ∧
      ∃ function ∈ (ofFiles callsStep).functions, ∃ site ∈ function.sites,
        site.target = .method "step" ∧
        (ofFiles callsStep).callee? function.scope site.target = some ⟨"shaders::A", "step"⟩ ∧
        (ofFiles stepsTwice).callee? function.scope site.target = none ∧
        CarriesOver (ofFiles callsStep) "step"
          ((ofFiles callsStep).callee? function.scope site.target)
          ((ofFiles stepsTwice).callee? function.scope site.target) := by
  have hids : Apart SourceFile.ids stepsTwice := by
    decide +kernel
  have hsubset : callsStep ⊆ stepsTwice := List.subset_cons_self _ _
  have hcall : ∃ function ∈ (ofFiles callsStep).functions, ∃ site ∈ function.sites,
      site.target = .method "step" ∧
      (ofFiles callsStep).callee? function.scope site.target = some ⟨"shaders::A", "step"⟩ ∧
      (ofFiles stepsTwice).callee? function.scope site.target = none := by
    decide +kernel
  obtain ⟨function, hfunction, site, hsite, htarget, hbefore, hafter⟩ := hcall
  obtain ⟨_, hcarries, _⟩ := method_carriesOver hids hsubset hfunction hsite htarget
  exact ⟨hids, hsubset, function, hfunction, site, hsite, htarget, hbefore, hafter, hcarries⟩

end SymbolIndex

end ShaderCalls
