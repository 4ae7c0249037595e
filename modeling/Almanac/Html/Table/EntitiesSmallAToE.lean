/-!
# Table: named characters, small letters a to e

The names of character references that begin with the small letters a to e, each with the
code points that it stands for. A few names may also be written without the
semicolon and are listed both ways.
-/

namespace Almanac.Html.Table

/-- Named characters that begin with the small letters a to e. -/
def smallAToE : List (String × List Nat) := [
  ("aacute", [225]), ("aacute;", [225]), ("abreve;", [259]), ("ac;", [8766]),
  ("acE;", [8766, 819]), ("acd;", [8767]), ("acirc", [226]), ("acirc;", [226]), ("acute", [180]),
  ("acute;", [180]), ("acy;", [1072]), ("aelig", [230]), ("aelig;", [230]), ("af;", [8289]),
  ("afr;", [120094]), ("agrave", [224]), ("agrave;", [224]), ("alefsym;", [8501]),
  ("aleph;", [8501]), ("alpha;", [945]), ("amacr;", [257]), ("amalg;", [10815]), ("amp", [38]),
  ("amp;", [38]), ("and;", [8743]), ("andand;", [10837]), ("andd;", [10844]),
  ("andslope;", [10840]), ("andv;", [10842]), ("ang;", [8736]), ("ange;", [10660]),
  ("angle;", [8736]), ("angmsd;", [8737]), ("angmsdaa;", [10664]), ("angmsdab;", [10665]),
  ("angmsdac;", [10666]), ("angmsdad;", [10667]), ("angmsdae;", [10668]), ("angmsdaf;", [10669]),
  ("angmsdag;", [10670]), ("angmsdah;", [10671]), ("angrt;", [8735]), ("angrtvb;", [8894]),
  ("angrtvbd;", [10653]), ("angsph;", [8738]), ("angst;", [197]), ("angzarr;", [9084]),
  ("aogon;", [261]), ("aopf;", [120146]), ("ap;", [8776]), ("apE;", [10864]),
  ("apacir;", [10863]), ("ape;", [8778]), ("apid;", [8779]), ("apos;", [39]), ("approx;", [8776]),
  ("approxeq;", [8778]), ("aring", [229]), ("aring;", [229]), ("ascr;", [119990]), ("ast;", [42]),
  ("asymp;", [8776]), ("asympeq;", [8781]), ("atilde", [227]), ("atilde;", [227]),
  ("auml", [228]), ("auml;", [228]), ("awconint;", [8755]), ("awint;", [10769]),
  ("bNot;", [10989]), ("backcong;", [8780]), ("backepsilon;", [1014]), ("backprime;", [8245]),
  ("backsim;", [8765]), ("backsimeq;", [8909]), ("barvee;", [8893]), ("barwed;", [8965]),
  ("barwedge;", [8965]), ("bbrk;", [9141]), ("bbrktbrk;", [9142]), ("bcong;", [8780]),
  ("bcy;", [1073]), ("bdquo;", [8222]), ("becaus;", [8757]), ("because;", [8757]),
  ("bemptyv;", [10672]), ("bepsi;", [1014]), ("bernou;", [8492]), ("beta;", [946]),
  ("beth;", [8502]), ("between;", [8812]), ("bfr;", [120095]), ("bigcap;", [8898]),
  ("bigcirc;", [9711]), ("bigcup;", [8899]), ("bigodot;", [10752]), ("bigoplus;", [10753]),
  ("bigotimes;", [10754]), ("bigsqcup;", [10758]), ("bigstar;", [9733]),
  ("bigtriangledown;", [9661]), ("bigtriangleup;", [9651]), ("biguplus;", [10756]),
  ("bigvee;", [8897]), ("bigwedge;", [8896]), ("bkarow;", [10509]), ("blacklozenge;", [10731]),
  ("blacksquare;", [9642]), ("blacktriangle;", [9652]), ("blacktriangledown;", [9662]),
  ("blacktriangleleft;", [9666]), ("blacktriangleright;", [9656]), ("blank;", [9251]),
  ("blk12;", [9618]), ("blk14;", [9617]), ("blk34;", [9619]), ("block;", [9608]),
  ("bne;", [61, 8421]), ("bnequiv;", [8801, 8421]), ("bnot;", [8976]), ("bopf;", [120147]),
  ("bot;", [8869]), ("bottom;", [8869]), ("bowtie;", [8904]), ("boxDL;", [9559]),
  ("boxDR;", [9556]), ("boxDl;", [9558]), ("boxDr;", [9555]), ("boxH;", [9552]),
  ("boxHD;", [9574]), ("boxHU;", [9577]), ("boxHd;", [9572]), ("boxHu;", [9575]),
  ("boxUL;", [9565]), ("boxUR;", [9562]), ("boxUl;", [9564]), ("boxUr;", [9561]),
  ("boxV;", [9553]), ("boxVH;", [9580]), ("boxVL;", [9571]), ("boxVR;", [9568]),
  ("boxVh;", [9579]), ("boxVl;", [9570]), ("boxVr;", [9567]), ("boxbox;", [10697]),
  ("boxdL;", [9557]), ("boxdR;", [9554]), ("boxdl;", [9488]), ("boxdr;", [9484]),
  ("boxh;", [9472]), ("boxhD;", [9573]), ("boxhU;", [9576]), ("boxhd;", [9516]),
  ("boxhu;", [9524]), ("boxminus;", [8863]), ("boxplus;", [8862]), ("boxtimes;", [8864]),
  ("boxuL;", [9563]), ("boxuR;", [9560]), ("boxul;", [9496]), ("boxur;", [9492]),
  ("boxv;", [9474]), ("boxvH;", [9578]), ("boxvL;", [9569]), ("boxvR;", [9566]),
  ("boxvh;", [9532]), ("boxvl;", [9508]), ("boxvr;", [9500]), ("bprime;", [8245]),
  ("breve;", [728]), ("brvbar", [166]), ("brvbar;", [166]), ("bscr;", [119991]),
  ("bsemi;", [8271]), ("bsim;", [8765]), ("bsime;", [8909]), ("bsol;", [92]), ("bsolb;", [10693]),
  ("bsolhsub;", [10184]), ("bull;", [8226]), ("bullet;", [8226]), ("bump;", [8782]),
  ("bumpE;", [10926]), ("bumpe;", [8783]), ("bumpeq;", [8783]), ("cacute;", [263]),
  ("cap;", [8745]), ("capand;", [10820]), ("capbrcup;", [10825]), ("capcap;", [10827]),
  ("capcup;", [10823]), ("capdot;", [10816]), ("caps;", [8745, 65024]), ("caret;", [8257]),
  ("caron;", [711]), ("ccaps;", [10829]), ("ccaron;", [269]), ("ccedil", [231]),
  ("ccedil;", [231]), ("ccirc;", [265]), ("ccups;", [10828]), ("ccupssm;", [10832]),
  ("cdot;", [267]), ("cedil", [184]), ("cedil;", [184]), ("cemptyv;", [10674]), ("cent", [162]),
  ("cent;", [162]), ("centerdot;", [183]), ("cfr;", [120096]), ("chcy;", [1095]),
  ("check;", [10003]), ("checkmark;", [10003]), ("chi;", [967]), ("cir;", [9675]),
  ("cirE;", [10691]), ("circ;", [710]), ("circeq;", [8791]), ("circlearrowleft;", [8634]),
  ("circlearrowright;", [8635]), ("circledR;", [174]), ("circledS;", [9416]),
  ("circledast;", [8859]), ("circledcirc;", [8858]), ("circleddash;", [8861]), ("cire;", [8791]),
  ("cirfnint;", [10768]), ("cirmid;", [10991]), ("cirscir;", [10690]), ("clubs;", [9827]),
  ("clubsuit;", [9827]), ("colon;", [58]), ("colone;", [8788]), ("coloneq;", [8788]),
  ("comma;", [44]), ("commat;", [64]), ("comp;", [8705]), ("compfn;", [8728]),
  ("complement;", [8705]), ("complexes;", [8450]), ("cong;", [8773]), ("congdot;", [10861]),
  ("conint;", [8750]), ("copf;", [120148]), ("coprod;", [8720]), ("copy", [169]),
  ("copy;", [169]), ("copysr;", [8471]), ("crarr;", [8629]), ("cross;", [10007]),
  ("cscr;", [119992]), ("csub;", [10959]), ("csube;", [10961]), ("csup;", [10960]),
  ("csupe;", [10962]), ("ctdot;", [8943]), ("cudarrl;", [10552]), ("cudarrr;", [10549]),
  ("cuepr;", [8926]), ("cuesc;", [8927]), ("cularr;", [8630]), ("cularrp;", [10557]),
  ("cup;", [8746]), ("cupbrcap;", [10824]), ("cupcap;", [10822]), ("cupcup;", [10826]),
  ("cupdot;", [8845]), ("cupor;", [10821]), ("cups;", [8746, 65024]), ("curarr;", [8631]),
  ("curarrm;", [10556]), ("curlyeqprec;", [8926]), ("curlyeqsucc;", [8927]),
  ("curlyvee;", [8910]), ("curlywedge;", [8911]), ("curren", [164]), ("curren;", [164]),
  ("curvearrowleft;", [8630]), ("curvearrowright;", [8631]), ("cuvee;", [8910]),
  ("cuwed;", [8911]), ("cwconint;", [8754]), ("cwint;", [8753]), ("cylcty;", [9005]),
  ("dArr;", [8659]), ("dHar;", [10597]), ("dagger;", [8224]), ("daleth;", [8504]),
  ("darr;", [8595]), ("dash;", [8208]), ("dashv;", [8867]), ("dbkarow;", [10511]),
  ("dblac;", [733]), ("dcaron;", [271]), ("dcy;", [1076]), ("dd;", [8518]), ("ddagger;", [8225]),
  ("ddarr;", [8650]), ("ddotseq;", [10871]), ("deg", [176]), ("deg;", [176]), ("delta;", [948]),
  ("demptyv;", [10673]), ("dfisht;", [10623]), ("dfr;", [120097]), ("dharl;", [8643]),
  ("dharr;", [8642]), ("diam;", [8900]), ("diamond;", [8900]), ("diamondsuit;", [9830]),
  ("diams;", [9830]), ("die;", [168]), ("digamma;", [989]), ("disin;", [8946]), ("div;", [247]),
  ("divide", [247]), ("divide;", [247]), ("divideontimes;", [8903]), ("divonx;", [8903]),
  ("djcy;", [1106]), ("dlcorn;", [8990]), ("dlcrop;", [8973]), ("dollar;", [36]),
  ("dopf;", [120149]), ("dot;", [729]), ("doteq;", [8784]), ("doteqdot;", [8785]),
  ("dotminus;", [8760]), ("dotplus;", [8724]), ("dotsquare;", [8865]),
  ("doublebarwedge;", [8966]), ("downarrow;", [8595]), ("downdownarrows;", [8650]),
  ("downharpoonleft;", [8643]), ("downharpoonright;", [8642]), ("drbkarow;", [10512]),
  ("drcorn;", [8991]), ("drcrop;", [8972]), ("dscr;", [119993]), ("dscy;", [1109]),
  ("dsol;", [10742]), ("dstrok;", [273]), ("dtdot;", [8945]), ("dtri;", [9663]),
  ("dtrif;", [9662]), ("duarr;", [8693]), ("duhar;", [10607]), ("dwangle;", [10662]),
  ("dzcy;", [1119]), ("dzigrarr;", [10239]), ("eDDot;", [10871]), ("eDot;", [8785]),
  ("eacute", [233]), ("eacute;", [233]), ("easter;", [10862]), ("ecaron;", [283]),
  ("ecir;", [8790]), ("ecirc", [234]), ("ecirc;", [234]), ("ecolon;", [8789]), ("ecy;", [1101]),
  ("edot;", [279]), ("ee;", [8519]), ("efDot;", [8786]), ("efr;", [120098]), ("eg;", [10906]),
  ("egrave", [232]), ("egrave;", [232]), ("egs;", [10902]), ("egsdot;", [10904]),
  ("el;", [10905]), ("elinters;", [9191]), ("ell;", [8467]), ("els;", [10901]),
  ("elsdot;", [10903]), ("emacr;", [275]), ("empty;", [8709]), ("emptyset;", [8709]),
  ("emptyv;", [8709]), ("emsp13;", [8196]), ("emsp14;", [8197]), ("emsp;", [8195]),
  ("eng;", [331]), ("ensp;", [8194]), ("eogon;", [281]), ("eopf;", [120150]), ("epar;", [8917]),
  ("eparsl;", [10723]), ("eplus;", [10865]), ("epsi;", [949]), ("epsilon;", [949]),
  ("epsiv;", [1013]), ("eqcirc;", [8790]), ("eqcolon;", [8789]), ("eqsim;", [8770]),
  ("eqslantgtr;", [10902]), ("eqslantless;", [10901]), ("equals;", [61]), ("equest;", [8799]),
  ("equiv;", [8801]), ("equivDD;", [10872]), ("eqvparsl;", [10725]), ("erDot;", [8787]),
  ("erarr;", [10609]), ("escr;", [8495]), ("esdot;", [8784]), ("esim;", [8770]), ("eta;", [951]),
  ("eth", [240]), ("eth;", [240]), ("euml", [235]), ("euml;", [235]), ("euro;", [8364]),
  ("excl;", [33]), ("exist;", [8707]), ("expectation;", [8496]), ("exponentiale;", [8519])]

end Almanac.Html.Table
