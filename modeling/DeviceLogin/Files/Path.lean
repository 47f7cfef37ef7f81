import DeviceLogin.Text.Split

set_option autoImplicit false

namespace DeviceLogin.Files

-- The folder of a path. A slash at the end does not count, and a path without a folder lies in the
-- root or in the current folder.
def folderOf (path : String) : String :=
  match path.toList with
  | [] => "."
  | first :: body =>
      let atRoot := first == '/'
      let named := (body.reverse.dropWhile (· == '/')).dropWhile (· != '/')
      match named with
      | [] => if atRoot then "/" else "."
      | _ :: before =>
          if atRoot && before.isEmpty then "//" else String.ofList (first :: before.reverse)

def foldersAbove : Nat → String → List String
  | 0, _ => []
  | fuel + 1, path =>
      let folder := folderOf path
      if folder == path then [folder] else folder :: foldersAbove fuel folder

def enterPart (atRoot : Bool) (done : List (List Char)) (part : List Char) : List (List Char) :=
  if part.isEmpty || part == ['.'] then done
  else if part == ['.', '.'] then
    match done with
    | last :: before =>
        if last == ['.', '.'] then part :: done else before
    | [] => if atRoot then [] else [part]
  else part :: done

def normalize (path : List Char) : List Char :=
  let atRoot := path.head? == some '/'
  let asFolder := path.getLast? == some '/'
  let parts := ((Text.splitOn '/' path).foldl (enterPart atRoot) []).reverse
  let body := Text.intercalate ['/'] parts
  if body.isEmpty then
    if atRoot then ['/'] else if asFolder then ['.', '/'] else ['.']
  else (if atRoot then ['/'] else []) ++ body ++ (if asFolder then ['/'] else [])

def join (folder name : String) : String :=
  let parts := [folder, name].filter (!·.isEmpty)
  String.ofList (normalize (Text.intercalate ['/'] (parts.map String.toList)))

end DeviceLogin.Files
