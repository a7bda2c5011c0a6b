import Marginalia.Text.Basic

/-!
The script of the comment form. It is deployed with every site and served by the preview.
-/

namespace Marginalia

namespace Page

/-- Where the script stands below the directory of assets. -/
def scriptFile : Text := "js/staticman_comments.js"

/-- The lines of the script. -/
def scriptLines : List String := [
  "'use strict';",
  "",
  "// Comment form handling for Staticman: posts the form in the background and",
  "// moves the form under a comment when the reader replies to it.",
  "var addComment = (function () \x7b",
  "  var I = function (id) \x7b",
  "    return document.getElementById(id);",
  "  \x7d;",
  "",
  "  var form = I('comment-form');",
  "  if (!form) \x7b",
  "    return \x7b\x7d;",
  "  \x7d",
  "",
  "  var submitButton = I('comment-form-submit');",
  "  var fieldset = I('comments-fieldset');",
  "  var status = I('comment-form-status');",
  "  var replyingTo = I('comment-replying-to-uid');",
  "  var cancel = I('cancel-comment-reply-link');",
  "",
  "  var setStatus = function (html) \x7b",
  "    if (status) \x7b",
  "      status.innerHTML = html;",
  "    \x7d",
  "  \x7d;",
  "",
  "  var reset = function () \x7b",
  "    submitButton.textContent = 'Submit comment';",
  "    fieldset.removeAttribute('disabled');",
  "  \x7d;",
  "",
  "  form.addEventListener('submit', function (event) \x7b",
  "    event.preventDefault();",
  "    submitButton.textContent = 'Submitting...';",
  "",
  "    // Build the body before disabling the fieldset, disabled inputs are not submitted.",
  "    var body = new URLSearchParams(new FormData(form));",
  "    fieldset.setAttribute('disabled', 'disabled');",
  "",
  "    fetch(form.getAttribute('action'), \x7b",
  "      method: 'POST',",
  "      body: body,",
  "      headers: new Headers(\x7b 'content-type': 'application/x-www-form-urlencoded' \x7d)",
  "    \x7d).then(function (resp) \x7b",
  "      if (resp.ok) \x7b",
  "        setStatus('Thanks! Your comment is pending and will appear once it is approved.');",
  "        form.reset();",
  "        reset();",
  "        return;",
  "      \x7d",
  "      return resp.text().then(function (text) \x7b",
  "        setStatus('The server could not process the comment (' + resp.status + '): ' + text);",
  "        reset();",
  "      \x7d);",
  "    \x7d).catch(function (err) \x7b",
  "      setStatus('Could not submit the comment: ' + err);",
  "      reset();",
  "    \x7d);",
  "  \x7d);",
  "",
  "  var respond = I('respond');",
  "  var placeholder = null;",
  "",
  "  var cancelReply = function () \x7b",
  "    if (placeholder) \x7b",
  "      placeholder.parentNode.insertBefore(respond, placeholder);",
  "      placeholder.parentNode.removeChild(placeholder);",
  "      placeholder = null;",
  "    \x7d",
  "    replyingTo.value = '';",
  "    cancel.style.display = 'none';",
  "    return false;",
  "  \x7d;",
  "",
  "  var moveForm = function (commentElementId, parentId) \x7b",
  "    var comment = I(commentElementId);",
  "    if (!comment || !respond || !replyingTo || !cancel) \x7b",
  "      return false;",
  "    \x7d",
  "    if (!placeholder) \x7b",
  "      placeholder = document.createElement('div');",
  "      placeholder.style.display = 'none';",
  "      respond.parentNode.insertBefore(placeholder, respond);",
  "    \x7d",
  "    comment.parentNode.insertBefore(respond, comment.nextSibling);",
  "    replyingTo.value = parentId;",
  "    cancel.style.display = '';",
  "    cancel.onclick = cancelReply;",
  "    I('comment-form-message').focus();",
  "    return false;",
  "  \x7d;",
  "",
  "  document.querySelectorAll('.comment-reply').forEach(function (button) \x7b",
  "    button.addEventListener('click', function (event) \x7b",
  "      event.preventDefault();",
  "      moveForm(button.getAttribute('data-anchor'), button.getAttribute('data-comment-id'));",
  "    \x7d);",
  "  \x7d);",
  "",
  "  return \x7b moveForm: moveForm, cancelReply: cancelReply \x7d;",
  "\x7d)();"]

/-- The script. -/
def script : Text := scriptLines.flatMap fun l => Text.ofString (l ++ "\n")

end Page

end Marginalia
