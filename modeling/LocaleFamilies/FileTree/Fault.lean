/-! Why an access to a file tree fails. -/
namespace LocaleFamilies

inductive Fault
  | notFound
  /-- A file that cannot be run, for it is no program and names none. -/
  | notProgram
  | badStream
  | permissionDenied
  | alreadyPresent
  | notDirectory
  | isDirectory
  | textBusy
  | nameTooLong
  | tooManyLinks
  /-- A path with a zero byte in it. -/
  | zeroByte
  /-- A command with a zero byte in it. -/
  | zeroByteInCommand
  /-- A content that was to be read as text. -/
  | notText
  deriving DecidableEq, Repr

def Fault.message : Fault → String
  | notFound => "No such file or directory (os error 2)"
  | notProgram => "Exec format error (os error 8)"
  | badStream => "Bad file descriptor (os error 9)"
  | permissionDenied => "Permission denied (os error 13)"
  | alreadyPresent => "File exists (os error 17)"
  | notDirectory => "Not a directory (os error 20)"
  | isDirectory => "Is a directory (os error 21)"
  | textBusy => "Text file busy (os error 26)"
  | nameTooLong => "File name too long (os error 36)"
  | tooManyLinks => "Too many levels of symbolic links (os error 40)"
  | zeroByte => "file name contained an unexpected NUL byte"
  | zeroByteInCommand => "nul byte found in provided data"
  | notText => "stream did not contain valid UTF-8"

end LocaleFamilies
