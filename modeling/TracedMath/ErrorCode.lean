namespace TracedMath

/-- What a thread's errno holds. Any number can be stored, the table names some. -/
structure ErrorCode where
  code : Int32
  deriving DecidableEq, Repr

namespace ErrorCode

def success : ErrorCode := ⟨0⟩

/-- The argument lies outside the domain of the function. -/
def domain : ErrorCode := ⟨33⟩

theorem domain_ne_success : domain ≠ success := by decide

/-- The codes from one on, in their order. -/
def names : List String :=
  ["EPERM", "ENOENT", "ESRCH", "EINTR", "EIO", "ENXIO", "E2BIG", "ENOEXEC", "EBADF", "ECHILD",
   "EAGAIN", "ENOMEM", "EACCES", "EFAULT", "ENOTBLK", "EBUSY", "EEXIST", "EXDEV", "ENODEV",
   "ENOTDIR", "EISDIR", "EINVAL", "ENFILE", "EMFILE", "ENOTTY", "ETXTBSY", "EFBIG", "ENOSPC",
   "ESPIPE", "EROFS", "EMLINK", "EPIPE", "EDOM", "ERANGE"]

def named : List (String × ErrorCode) :=
  names.mapIdx fun i name => (name, ⟨Int32.ofNat (i + 1)⟩)

/-- The texts of the codes from zero on, in their order. -/
def messages : List String :=
  ["Success",
   "Operation not permitted",
   "No such file or directory",
   "No such process",
   "Interrupted system call",
   "Input/output error",
   "No such device or address",
   "Argument list too long",
   "Exec format error",
   "Bad file descriptor",
   "No child processes",
   "Resource temporarily unavailable",
   "Cannot allocate memory",
   "Permission denied",
   "Bad address",
   "Block device required",
   "Device or resource busy",
   "File exists",
   "Invalid cross-device link",
   "No such device",
   "Not a directory",
   "Is a directory",
   "Invalid argument",
   "Too many open files in system",
   "Too many open files",
   "Inappropriate ioctl for device",
   "Text file busy",
   "File too large",
   "No space left on device",
   "Illegal seek",
   "Read-only file system",
   "Too many links",
   "Broken pipe",
   "Numerical argument out of domain",
   "Numerical result out of range"]

/-- The text of a code in the table. -/
def entry? (e : ErrorCode) : Option String :=
  if 0 ≤ e.code.toInt then messages[e.code.toInt.toNat]? else none

/-- One text serves every code outside the table. -/
def describe (e : ErrorCode) : String := e.entry?.getD "Unknown error"

/-- A code outside the table shows its number. -/
def message (e : ErrorCode) : String :=
  e.entry?.getD ("unknown error (" ++ toString e.code.toInt ++ ")")

/-- The code with its tag. -/
def tagged (e : ErrorCode) : String := "Errno(" ++ toString e.code.toInt ++ ")"

theorem entry?_isSome_iff (e : ErrorCode) :
    e.entry?.isSome ↔ 0 ≤ e.code.toInt ∧ e.code.toInt ≤ 34 := by
  have length : messages.length = 35 := rfl
  unfold entry?
  split
  · rw [Option.isSome_iff_ne_none, ne_eq, List.getElem?_eq_none_iff, length]; omega
  · simp; omega

end ErrorCode

end TracedMath
