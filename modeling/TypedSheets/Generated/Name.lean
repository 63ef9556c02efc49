import TypedSheets.Text.Identifier
import TypedSheets.Text.NormalForm
import TypedSheets.Text.Printable
import TypedSheets.Generated.LoadError

/-!
# Names in generated modules

A name is known under its normal form, however it is spelled. Inside a class, a private
name belongs to that class and carries the name of the class. The name of a project is
the first part of the names of its modules: it stands in import lines as it is, so a
name that is no identifier makes the first of these lines unreadable.
-/

namespace TypedSheets.Generated

open TypedSheets.Number TypedSheets.Text

/-- Whether a name starts with two underscores and does not end with two. -/
def isPrivate (name : String) : Bool :=
  let mark := ['_', '_']
  mark.isPrefixOf name.toList && !mark.isSuffixOf name.toList

/-- A name inside a class: a private one carries the name of the class, without the
underscores that it starts with. -/
def nameWithin (owner name : String) : String :=
  if isPrivate name then
    "_" ++ String.ofList (owner.toList.dropWhile (· == '_')) ++ name
  else name

/-- The name that no module may bind. -/
def unboundName : String := "__debug__"

/-- A line that binds that name. -/
def bindsUnbound (file : String) (line : Nat) : LoadError :=
  .malformed ("cannot assign to " ++ unboundName) file line

/-- The characters of names and numbers. -/
def isWordChar (c : Char) : Bool := c.isAlphanum || c == '_' || 128 ≤ c.toNat

/-- What is wrong with a character that stands in no identifier. -/
def characterFault (c : Char) : String :=
  let digits := integerDigits c.toNat
  if isPrintable c then "invalid character '" ++ String.singleton c ++ "' (U+" ++ digits ++ ")"
  else "invalid non-printable character U+" ++ digits
where
  integerDigits (code : Nat) : String :=
    let digits := (Nat.toDigits 16 code).map Char.toUpper
    String.ofList (List.replicate (4 - digits.length) '0' ++ digits)

/-- The first character of a word that makes it no identifier. -/
def badCharacter? : List Char → Option Char
  | [] => none
  | c :: rest => if isIdentifierStart c then rest.find? (!isIdentifierContinue ·) else some c

/-- What is wrong with a word that starts with a digit, if it is no number. Behind the last
word of a project there is a point and a name. -/
def numberFault? (last : Bool) (word : List Char) : Option String :=
  match word.dropWhile fun c => isAsciiDigit c || c == '_' with
  | [] => if last then some "invalid decimal literal" else none
  | c :: rest =>
    let based := word.head? == some '0' && word.length = rest.length + 2
    if (based && "xXoObB".toList.contains c) || "eEjJ".toList.contains c then none
    else some (((badCharacter? (c :: rest)).map characterFault).getD "invalid decimal literal")

/-- What is wrong with the words of a text, and with the quotes and brackets between them;
`open_` counts the brackets that are open. -/
def wordFault? : Nat → Nat → List Char → Option String
  | 0, _, _ => none
  | _, _, [] => none
  | fuel + 1, open_, c :: rest =>
    if isWordChar c then
      let word := (c :: rest).takeWhile isWordChar
      let behind := rest.dropWhile isWordChar
      let fault := if isAsciiDigit c then numberFault? behind.isEmpty word
        else (badCharacter? word).map characterFault
      fault <|> wordFault? fuel open_ behind
    else if c = '\'' ∨ c = '"' then
      match rest.dropWhile (· != c) with
      | [] => some "unterminated string literal (detected at line 4)"
      | _ :: behind => wordFault? fuel open_ behind
    else if "([\x7b".toList.contains c then wordFault? fuel (open_ + 1) rest
    else if ")]\x7d".toList.contains c then
      if open_ = 0 then some ("unmatched '" ++ String.singleton c ++ "'")
      else wordFault? fuel (open_ - 1) rest
    else if c = '#' then none
    else if c = '\\' then some "unexpected character after line continuation character"
    else wordFault? fuel open_ rest

/-- What is wrong with a project name in an import line, if anything is. -/
def projectFault? (project : String) : Option String :=
  if isIdentifier project then none
  else some ((wordFault? project.length 0 project.toList).getD "invalid syntax")

/-- The packages and the other modules of the standard library. They come before generated
modules. -/
def standardPackages : List String := [
    "asyncio", "collections", "concurrent", "ctypes", "curses", "dbm", "distutils", "email",
    "encodings", "html", "http", "importlib", "json", "lib2to3", "logging", "masterdata",
    "multiprocessing", "pydoc_data", "re", "sqlite3", "test", "tomllib", "unittest", "urllib",
    "venv", "wsgiref", "xml", "xmlrpc", "zoneinfo"]

def standardModules : List String := [
    "abc", "aifc", "argparse", "array", "ast", "asynchat", "asyncore", "atexit", "audioop",
    "base64", "bdb", "binascii", "bisect", "builtins", "bz2", "cProfile", "calendar", "cgi",
    "cgitb", "chunk", "cmath", "cmd", "code", "codecs", "codeop", "colorsys", "compileall",
    "configparser", "contextlib", "contextvars", "copy", "copyreg", "crypt", "csv",
    "dataclasses", "datetime", "decimal", "difflib", "dis", "doctest", "enum", "errno",
    "faulthandler", "fcntl", "filecmp", "fileinput", "fnmatch", "fractions", "ftplib",
    "functools", "gc", "genericpath", "getopt", "getpass", "gettext", "glob", "graphlib", "grp",
    "gzip", "hashlib", "heapq", "hmac", "imaplib", "imghdr", "imp", "inspect", "io",
    "ipaddress", "itertools", "keyword", "linecache", "locale", "lzma", "mailbox", "mailcap",
    "marshal", "math", "mimetypes", "mmap", "modulefinder", "netrc", "nis", "nntplib", "ntpath",
    "nturl2path", "numbers", "opcode", "operator", "optparse", "os", "ossaudiodev", "pathlib",
    "pdb", "pickle", "pickletools", "pipes", "pkgutil", "platform", "plistlib", "poplib",
    "posix", "posixpath", "pprint", "profile", "pstats", "pty", "pwd", "py_compile", "pyclbr",
    "pydoc", "pyexpat", "queue", "quopri", "random", "readline", "reprlib", "resource",
    "rlcompleter", "runpy", "sched", "secrets", "select", "selectors", "shelve", "shlex",
    "shutil", "signal", "site", "smtpd", "smtplib", "sndhdr", "socket", "socketserver", "spwd",
    "sre_compile", "sre_constants", "sre_parse", "ssl", "stat", "statistics", "string",
    "stringprep", "struct", "subprocess", "sunau", "symtable", "sys", "sysconfig", "syslog",
    "tabnanny", "tarfile", "telnetlib", "tempfile", "termios", "textwrap", "threading", "time",
    "timeit", "token", "tokenize", "trace", "traceback", "tracemalloc", "tty", "types",
    "typing", "unicodedata", "uu", "uuid", "warnings", "wave", "weakref", "webbrowser",
    "xdrlib", "zipapp", "zipfile", "zipimport", "zlib"]

end TypedSheets.Generated
