/-! Reports read back from their lines. A heading opens a part, and what is read on the lines down to the
next heading belongs to it. So what a report tells of each family can be had from the lines alone. -/
namespace LocaleFamilies.Report

universe u v w x

section Outline

variable {α : Type u} {κ : Type v} {γ : Type w} (heading? : α → Option κ) (item? : α → Option γ)

/-- What is read before the first heading, and the parts with what is read in each of them. -/
def outline : List α → List γ × List (κ × List γ)
  | [] => ([], [])
  | line :: rest =>
    let (before, parts) := outline rest
    match heading? line with
    | some key => ([], (key, before) :: parts)
    | none => ((item? line).toList ++ before, parts)

variable {heading? item?}

end Outline

end LocaleFamilies.Report
