import LocaleFamilies.Path.Basic

/-! Joining paths: the second one is read from the place that the first one names, so an absolute
second path stands alone. -/
namespace LocaleFamilies.Path

/-- A path below another. A slash is put between them unless the first is empty or ends in one. -/
def join (base path : Path) : Path :=
  if path.isAbsolute then path
  else if base.spelling.isEmpty || base.spelling.getLast? == some Bytes.slash then
    ⟨base.spelling ++ path.spelling⟩
  else ⟨base.spelling ++ Bytes.slash :: path.spelling⟩

end LocaleFamilies.Path
